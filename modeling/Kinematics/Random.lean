import Kinematics.Cartesian.Projection
import Kinematics.Joint.Projection

/-!
# Random states

Numbers are drawn from a generator that is passed along.
-/

namespace Kinematics
variable {α γ : Type} [Scalar α] [RandomGen γ]

/-- A number drawn evenly from `[0, 1]`. -/
def randomUnit : StateM γ α := do
  let (n, g) := randNat (← get) 0 (Nat.pow 2 53)
  set g
  return (n : α) / (Nat.pow 2 53 : α)

/-- A number drawn evenly from `[-1, 1]`. -/
def randomSigned : StateM γ α := return Scalar.two * (← randomUnit) - 1

def Vector3.random : StateM γ (Vector3 α) :=
  return ⟨← randomSigned, ← randomSigned, ← randomSigned⟩

/-- A rotation drawn evenly from all rotations: two circles whose squared radii sum to one. -/
def Quaternion.random : StateM γ (Quaternion α) := do
  let u : α ← randomUnit
  let φ : α := (← randomUnit) * Scalar.two * Scalar.pi
  let ψ : α := (← randomUnit) * Scalar.two * Scalar.pi
  let r := Scalar.sqrt (1 - u)
  let s := Scalar.sqrt u
  return normalize ⟨s * Scalar.cos ψ, r * Scalar.sin φ, r * Scalar.cos φ, s * Scalar.sin ψ⟩

/-- A filled state with vectors in `[-1, 1]` and a random orientation. -/
def CartesianState.random (name frame : String) (now : Instant) :
    StateM γ (CartesianState α) := do
  let values : CartesianValues α := {
    position := ← Vector3.random
    orientation := ← Quaternion.random
    linearVelocity := ← Vector3.random
    angularVelocity := ← Vector3.random
    linearAcceleration := ← Vector3.random
    angularAcceleration := ← Vector3.random
    force := ← Vector3.random
    torque := ← Vector3.random }
  return (new name frame now).setValues values

def CartesianProjection.random (kind : CartesianKind) (name frame : String) (now : Instant) :
    StateM γ (CartesianProjection α kind) :=
  return (← CartesianState.random name frame now).project kind

/-- As many random numbers as there are joints. -/
def randomList (joints : Nat) : StateM γ (List α) :=
  (List.range joints).mapM fun _ => randomSigned

/-- A filled state with numbers in `[-1, 1]`. -/
def JointState.random (name : String) (names : List String) (now : Instant) :
    StateM γ (JointState α) := do
  let values : JointValues α := {
    positions := ← randomList names.length
    velocities := ← randomList names.length
    accelerations := ← randomList names.length
    torques := ← randomList names.length }
  return (new name names now).setValues values

def JointProjection.random (field : JointField) (name : String) (names : List String)
    (now : Instant) : StateM γ (JointProjection α field) :=
  return (← JointState.random name names now).project field

end Kinematics
