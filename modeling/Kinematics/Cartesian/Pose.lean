import Kinematics.Cartesian.Projection

/-!
# Poses

The position and orientation of a frame. A pose maps what is expressed in its frame into its
reference frame.
-/

namespace Kinematics.CartesianPose
variable {α : Type}

def setPosition (p : CartesianPose α) (position : Vector3 α) : CartesianPose α :=
  p.map (·.setVector .position position)

def setOrientation (p : CartesianPose α) (q : Quaternion α) : CartesianPose α :=
  p.map (·.setOrientation q)

/-- The pose as a rigid motion. -/
def toIsometry (p : CartesianPose α) : Except (StateError α) (Isometry α) := do
  p.general.assertFilled
  return ⟨p.general.values.position, p.general.values.orientation⟩

variable [Scalar α]

def setOrientationCoefficients (q : Quaternion α) : Edit α (CartesianPose α) Unit :=
  CartesianProjection.lift (CartesianState.setOrientationCoefficients q)

def ofPosition (name : String) (position : Vector3 α) (frame : String) (now : Instant) :
    CartesianPose α :=
  setPosition (.new .pose name frame now) position

def ofParts (name : String) (position : Vector3 α) (orientation : Quaternion α) (frame : String)
    (now : Instant) : CartesianPose α :=
  setOrientation (ofPosition name position frame now) orientation

/-- A filled pose at the origin. -/
def identity (name frame : String) (now : Instant) : CartesianPose α :=
  ofPosition name 0 frame now

def ofIsometry (name : String) (isometry : Isometry α) (frame : String) (now : Instant) :
    CartesianPose α :=
  ofParts name isometry.translation isometry.rotation frame now

/-- The image of a vector that is expressed in the frame of the pose. -/
def transform (p : CartesianPose α) (v : Vector3 α) : Except (StateError α) (Vector3 α) := do
  p.general.assertFilled
  return p.general.values.orientation.rotate v + p.general.values.position

/-- Expresses a projection, given in the frame of the pose, in its reference frame. -/
def compose {kind : CartesianKind} (p : CartesianPose α) (q : CartesianProjection α kind)
    (now : Instant) : Except (StateError α) (CartesianProjection α kind) :=
  return (← p.general.compose q.general now).project kind

end Kinematics.CartesianPose
