import Kinematics.Joint.Selection
import Kinematics.Scalar

/-!
# The four fields of a joint state
-/

namespace Kinematics

@[ext] structure JointValues (α : Type) where
  positions : List α
  velocities : List α
  accelerations : List α
  torques : List α

namespace JointValues
variable {α : Type}

def get (v : JointValues α) : JointField → List α
  | .positions => v.positions
  | .velocities => v.velocities
  | .accelerations => v.accelerations
  | .torques => v.torques

def build (get : JointField → List α) : JointValues α where
  positions := get .positions
  velocities := get .velocities
  accelerations := get .accelerations
  torques := get .torques

@[simp] theorem get_build (get : JointField → List α) (field : JointField) :
    (build get).get field = get field := by
  cases field <;> rfl

theorem ext_get {u v : JointValues α} (h : ∀ field, u.get field = v.get field) : u = v := by
  ext1
  · exact h .positions
  · exact h .velocities
  · exact h .accelerations
  · exact h .torques

def set (v : JointValues α) (field : JointField) (xs : List α) : JointValues α :=
  build fun other => if other = field then xs else v.get other

def mapFields (v : JointValues α) (f : JointField → List α → List α) : JointValues α :=
  build fun field => f field (v.get field)

/-- Combines the numbers of two states, field by field. -/
def zipWith (f : α → α → α) (u v : JointValues α) : JointValues α :=
  build fun field => List.zipWith f (u.get field) (v.get field)

/-- The selected fields one after the other. -/
def read (v : JointValues α) (fields : List JointField) : List α := fields.flatMap v.get

/-- Takes the fields in turn off the front of `data`, `size` numbers each. -/
def write (size : Nat) : List JointField → List α → JointValues α → JointValues α
  | [], _, v => v
  | field :: fields, data, v =>
      write size fields (data.drop size) (v.set field (data.take size))

variable [Scalar α]

/-- Zeros for `size` joints. -/
def zeros (size : Nat) : JointValues α := build fun _ => List.replicate size 0

/-- Multiplies the numbers of the selected fields by `k`. -/
def scale (v : JointValues α) (k : α) (fields : List JointField) : JointValues α :=
  v.mapFields fun field xs => if field ∈ fields then xs.map (· * k) else xs

/-- The selected fields, and zeros in all others. -/
def restrict (v : JointValues α) (fields : List JointField) : JointValues α :=
  v.mapFields fun field xs => if field ∈ fields then xs else xs.map fun _ => 0

end JointValues
end Kinematics
