import Kinematics.Clamp
import Kinematics.Joint.State
import Kinematics.Matrix

/-!
# Gains and bounds on joint fields
-/

namespace Kinematics.JointState
variable {α : Type} [Scalar α]

/-- Bounds each selected number by its own bound and dead zone. -/
def clampEach (bounds : List α) (selection : JointSelection) (ratios : List α) :
    Edit α (JointState α) Unit := do
  let s ← get
  Edit.require s.assertFilled
  let size := selection.size s.size
  if bounds.length ≠ size then throw (.wrongSize .maxima size bounds.length)
  if ratios.length ≠ size then throw (.wrongSize .noiseRatios size ratios.length)
  write selection <| List.zipWith
    (fun x (bound, ratio) => (ClampAction.of (Scalar.abs x) bound ratio).apply x)
    (s.read selection) (bounds.zip ratios)

/-- Bounds all selected numbers alike. -/
def clamp (bound : α) (selection : JointSelection) (ratio : α) :
    Edit α (JointState α) Unit := do
  let size := selection.size (← get).size
  clampEach (List.replicate size bound) selection (List.replicate size ratio)

/-- Multiplies the selected numbers by a square gain matrix. -/
def multiply (gain : DenseMatrix α) (selection : JointSelection) :
    Edit α (JointState α) Unit := do
  let s ← get
  Edit.require s.assertFilled
  let size := selection.size s.size
  if gain.rows ≠ size then throw (.wrongSize .gainRows size gain.rows)
  if gain.cols ≠ size then throw (.wrongSize .gainColumns size gain.cols)
  write selection (gain.mulVec (s.read selection))

/-- Multiplies each selected number by its own gain. -/
def multiplyEach (gain : List α) (selection : JointSelection) :
    Edit α (JointState α) Unit := do
  let s ← get
  Edit.require s.assertFilled
  let size := selection.size s.size
  if gain.length ≠ size then throw (.wrongSize .gainVector size gain.length)
  write selection (List.zipWith (· * ·) (s.read selection) gain)

def scaleByMatrix (s : JointState α) (gain : DenseMatrix α) :
    Except (StateError α) (JointState α) :=
  (multiply gain .all).onCopy s

def scaleEach (s : JointState α) (gain : List α) : Except (StateError α) (JointState α) :=
  (multiplyEach gain .all).onCopy s

end Kinematics.JointState
