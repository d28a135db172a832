import Kinematics.Error

/-!
# The eight fields of a Cartesian state
-/

namespace Kinematics

@[ext] structure CartesianValues (α : Type) where
  position : Vector3 α
  orientation : Quaternion α
  linearVelocity : Vector3 α
  angularVelocity : Vector3 α
  linearAcceleration : Vector3 α
  angularAcceleration : Vector3 α
  force : Vector3 α
  torque : Vector3 α

/-- The unit quaternion of the same direction. -/
def Quaternion.unit {α : Type} [Scalar α] (q : Quaternion α) :
    Except (StateError α) (Quaternion α) :=
  match q.normalize? with
  | some u => .ok u
  | none => .error (.cannotNormalize q)

namespace CartesianValues
variable {α : Type}

def vector (v : CartesianValues α) : VectorField → Vector3 α
  | .position => v.position
  | .linearVelocity => v.linearVelocity
  | .angularVelocity => v.angularVelocity
  | .linearAcceleration => v.linearAcceleration
  | .angularAcceleration => v.angularAcceleration
  | .force => v.force
  | .torque => v.torque

/-- The fields from an orientation and a vector for each vector field. -/
def build (orientation : Quaternion α) (vector : VectorField → Vector3 α) : CartesianValues α where
  position := vector .position
  orientation := orientation
  linearVelocity := vector .linearVelocity
  angularVelocity := vector .angularVelocity
  linearAcceleration := vector .linearAcceleration
  angularAcceleration := vector .angularAcceleration
  force := vector .force
  torque := vector .torque

@[simp] theorem vector_build (orientation : Quaternion α) (vector : VectorField → Vector3 α)
    (field : VectorField) : (build orientation vector).vector field = vector field := by
  cases field <;> rfl

@[simp] theorem orientation_build (orientation : Quaternion α) (vector : VectorField → Vector3 α) :
    (build orientation vector).orientation = orientation := rfl

theorem ext_vector {u v : CartesianValues α} (orientation : u.orientation = v.orientation)
    (vector : ∀ field, u.vector field = v.vector field) : u = v := by
  ext1
  · exact vector .position
  · exact orientation
  · exact vector .linearVelocity
  · exact vector .angularVelocity
  · exact vector .linearAcceleration
  · exact vector .angularAcceleration
  · exact vector .force
  · exact vector .torque

def setVector (v : CartesianValues α) (field : VectorField) (x : Vector3 α) : CartesianValues α :=
  build v.orientation fun other => if other = field then x else v.vector other

def setOrientation (v : CartesianValues α) (q : Quaternion α) : CartesianValues α :=
  { v with orientation := q }

def mapVectors (v : CartesianValues α) (f : VectorField → Vector3 α → Vector3 α) :
    CartesianValues α :=
  build v.orientation fun field => f field (v.vector field)

@[simp] theorem orientation_setOrientation (v : CartesianValues α) (q : Quaternion α) :
    (v.setOrientation q).orientation = q := rfl

@[simp] theorem vector_setOrientation (v : CartesianValues α) (q : Quaternion α)
    (field : VectorField) : (v.setOrientation q).vector field = v.vector field := by
  cases field <;> rfl

@[simp] theorem orientation_mapVectors (v : CartesianValues α)
    (f : VectorField → Vector3 α → Vector3 α) : (v.mapVectors f).orientation = v.orientation := rfl

theorem vector_setVector_self (v : CartesianValues α) (field : VectorField) (x : Vector3 α) :
    (v.setVector field x).vector field = x := by
  rw [setVector, vector_build, if_pos rfl]

theorem vector_setVector_of_ne {field other : VectorField} (h : other ≠ field)
    (v : CartesianValues α) (x : Vector3 α) :
    (v.setVector field x).vector other = v.vector other := by
  rw [setVector, vector_build, if_neg h]

@[simp] theorem vector_mapVectors (v : CartesianValues α)
    (f : VectorField → Vector3 α → Vector3 α) (field : VectorField) :
    (v.mapVectors f).vector field = f field (v.vector field) := by
  rw [mapVectors, vector_build]

/-- The selected fields one after the other, a quaternion as `w, x, y, z`. -/
def read (v : CartesianValues α) (fields : List CartesianField) : List α :=
  fields.flatMap fun
    | .orientation => v.orientation.toList
    | .vector field => (v.vector field).toList

variable [Scalar α]

/-- Zero vectors and the identity rotation. -/
def identity : CartesianValues α := build .identity fun _ => 0

/-- The selected fields, and all others as in the identity. -/
def restrict (v : CartesianValues α) (fields : List CartesianField) : CartesianValues α :=
  build (if .orientation ∈ fields then v.orientation else .identity)
    fun field => if .vector field ∈ fields then v.vector field else 0

/-- The selected vectors as unit vectors; zero vectors stay. -/
def normalize (v : CartesianValues α) (fields : List CartesianField) : CartesianValues α :=
  v.mapVectors fun field x => if .vector field ∈ fields then x.normalize else x

/-- Takes the fields in turn off the front of `data`; the quaternion is normalized. -/
def write : List CartesianField → List α → CartesianValues α →
    Except (StateError α) (CartesianValues α)
  | .vector field :: fields, x :: y :: z :: data, v =>
      write fields data (v.setVector field ⟨x, y, z⟩)
  | .orientation :: fields, w :: x :: y :: z :: data, v => do
      let q ← Quaternion.unit ⟨w, x, y, z⟩
      write fields data (v.setOrientation q)
  | _, _, v => .ok v

end CartesianValues
end Kinematics
