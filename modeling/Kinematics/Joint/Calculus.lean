import Kinematics.Joint.Projection

/-!
# Joint positions, velocities and accelerations over time
-/

namespace Kinematics
namespace JointProjection
variable {α : Type} [Scalar α] {field : JointField}

/-- The joints of `p` with new numbers in another field. -/
def carryOver (p : JointProjection α field) (target : JointField) (data : List α)
    (now : Instant) : Except (StateError α) (JointProjection α target) :=
  (setData data).onCopy (new target p.general.name p.general.names now)

def rateOfChange (p : JointProjection α field) (target : JointField) (dt : Duration)
    (now : Instant) : Except (StateError α) (JointProjection α target) := do
  p.general.assertFilled
  let seconds ← p.general.nonzeroSeconds dt
  p.carryOver target ((p.general.values.get field).map (· / seconds)) now

def accumulated (p : JointProjection α field) (target : JointField) (dt : Duration)
    (now : Instant) : Except (StateError α) (JointProjection α target) := do
  p.general.assertFilled
  p.carryOver target ((p.general.values.get field).map (· * dt.seconds)) now

end JointProjection

variable {α : Type} [Scalar α]

/-- The velocities that cover the positions from zero in `dt`. -/
def JointPositions.differentiate (p : JointPositions α) (dt : Duration) (now : Instant) :
    Except (StateError α) (JointVelocities α) :=
  p.rateOfChange .velocities dt now

/-- The displacement of holding the velocities for `dt`. -/
def JointVelocities.integrate (v : JointVelocities α) (dt : Duration) (now : Instant) :
    Except (StateError α) (JointPositions α) :=
  v.accumulated .positions dt now

/-- The accelerations that reach the velocities from rest in `dt`. -/
def JointVelocities.differentiate (v : JointVelocities α) (dt : Duration) (now : Instant) :
    Except (StateError α) (JointAccelerations α) :=
  v.rateOfChange .accelerations dt now

/-- The velocities gained by holding the accelerations for `dt`. -/
def JointAccelerations.integrate (a : JointAccelerations α) (dt : Duration) (now : Instant) :
    Except (StateError α) (JointVelocities α) :=
  a.accumulated .velocities dt now

end Kinematics
