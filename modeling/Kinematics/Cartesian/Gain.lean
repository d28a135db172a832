import Kinematics.Cartesian.State
import Kinematics.Clamp
import Kinematics.Matrix

/-!
# Gains and bounds on Cartesian fields

Neither is defined for a selection with the orientation in it.
-/

namespace Kinematics.CartesianState
variable {α : Type} [Scalar α]

/-- Multiplies the selected numbers by a square gain matrix. -/
def multiply (gain : DenseMatrix α) (selection : CartesianSelection) :
    Edit α (CartesianState α) Unit := do
  if selection.containsOrientation then throw (.gainUndefined selection)
  let s ← get
  Edit.require s.assertFilled
  if gain.rows ≠ selection.size then throw (.wrongSize .gainRows selection.size gain.rows)
  if gain.cols ≠ selection.size then throw (.wrongSize .gainColumns selection.size gain.cols)
  write selection (gain.mulVec (s.read selection))

/-- Bounds the norm of the selected numbers, taken as one vector. -/
def clamp (bound : α) (selection : CartesianSelection) (ratio : α) :
    Edit α (CartesianState α) Unit := do
  if selection.containsOrientation then throw (.clampUndefined selection)
  let s ← get
  Edit.require s.assertFilled
  let values := s.read selection
  write selection (values.map (ClampAction.of (Scalar.norm values) bound ratio).apply)

end Kinematics.CartesianState
