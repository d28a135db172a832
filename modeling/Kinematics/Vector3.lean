import Kinematics.Scalar

/-!
# Vectors in space
-/

namespace Kinematics

@[ext] structure Vector3 (α : Type) where
  x : α
  y : α
  z : α

namespace Vector3
variable {α : Type} [Scalar α]

instance : Zero (Vector3 α) := ⟨⟨0, 0, 0⟩⟩
instance : Add (Vector3 α) := ⟨fun u v => ⟨u.x + v.x, u.y + v.y, u.z + v.z⟩⟩
instance : Sub (Vector3 α) := ⟨fun u v => ⟨u.x - v.x, u.y - v.y, u.z - v.z⟩⟩
instance : Neg (Vector3 α) := ⟨fun u => ⟨-u.x, -u.y, -u.z⟩⟩

def scale (v : Vector3 α) (k : α) : Vector3 α := ⟨v.x * k, v.y * k, v.z * k⟩

def divide (v : Vector3 α) (k : α) : Vector3 α := ⟨v.x / k, v.y / k, v.z / k⟩

def dot (u v : Vector3 α) : α := u.x * v.x + u.y * v.y + u.z * v.z

def cross (u v : Vector3 α) : Vector3 α :=
  ⟨u.y * v.z - u.z * v.y, u.z * v.x - u.x * v.z, u.x * v.y - u.y * v.x⟩

def norm (v : Vector3 α) : α := Scalar.sqrt (v.dot v)

/-- The unit vector of the same direction; the zero vector has none and stays. -/
def normalize (v : Vector3 α) : Vector3 α :=
  if v.norm ≤ 0 then v else v.divide v.norm

/-- The image of `v` under the linear map with the given entries. -/
def mapBy (entry : Fin 3 → Fin 3 → α) (v : Vector3 α) : Vector3 α :=
  let component (i : Fin 3) := entry i 0 * v.x + entry i 1 * v.y + entry i 2 * v.z
  ⟨component 0, component 1, component 2⟩

def toList (v : Vector3 α) : List α := [v.x, v.y, v.z]

@[simp] theorem zero_x : (0 : Vector3 α).x = 0 := rfl
@[simp] theorem zero_y : (0 : Vector3 α).y = 0 := rfl
@[simp] theorem zero_z : (0 : Vector3 α).z = 0 := rfl
@[simp] theorem add_x (u v : Vector3 α) : (u + v).x = u.x + v.x := rfl
@[simp] theorem add_y (u v : Vector3 α) : (u + v).y = u.y + v.y := rfl
@[simp] theorem add_z (u v : Vector3 α) : (u + v).z = u.z + v.z := rfl
@[simp] theorem sub_x (u v : Vector3 α) : (u - v).x = u.x - v.x := rfl
@[simp] theorem sub_y (u v : Vector3 α) : (u - v).y = u.y - v.y := rfl
@[simp] theorem sub_z (u v : Vector3 α) : (u - v).z = u.z - v.z := rfl
@[simp] theorem neg_x (v : Vector3 α) : (-v).x = -v.x := rfl
@[simp] theorem neg_y (v : Vector3 α) : (-v).y = -v.y := rfl
@[simp] theorem neg_z (v : Vector3 α) : (-v).z = -v.z := rfl

end Vector3
end Kinematics
