import Kinematics.Cartesian.Pose
import Kinematics.Cartesian.Screw

/-!
# Poses, twists and accelerations over time
-/

namespace Kinematics
variable {α : Type} [Scalar α]

/-- The twist that moves the reference frame onto the pose in `dt`. -/
def CartesianPose.differentiate (p : CartesianPose α) (dt : Duration) (now : Instant) :
    Except (StateError α) (CartesianTwist α) := do
  p.general.assertFilled
  let seconds ← p.general.nonzeroSeconds dt
  let q := p.general.values.orientation
  let log := if q.dot q.log < 0 then -q.log else q.log
  return CartesianScrew.ofParts .twist p.general.name
    (p.general.values.position.divide seconds) (log.vectorPart.scale (Scalar.two / seconds))
    p.general.frame now

/-- The pose reached by holding the twist for `dt`. -/
def CartesianTwist.integrate (t : CartesianTwist α) (dt : Duration) (now : Instant) :
    Except (StateError α) (CartesianPose α) := do
  t.general.assertFilled
  return CartesianPose.ofParts t.general.name
    (t.general.values.linearVelocity.scale dt.seconds)
    (Quaternion.exp t.general.values.angularVelocity (dt.seconds / Scalar.two))
    t.general.frame now

/-- The acceleration that reaches the twist from rest in `dt`. -/
def CartesianTwist.differentiate (t : CartesianTwist α) (dt : Duration) (now : Instant) :
    Except (StateError α) (CartesianAcceleration α) := do
  t.general.assertFilled
  let seconds ← t.general.nonzeroSeconds dt
  return CartesianScrew.ofParts .acceleration t.general.name
    (t.general.values.linearVelocity.divide seconds)
    (t.general.values.angularVelocity.divide seconds) t.general.frame now

/-- The twist gained by holding the acceleration for `dt`. -/
def CartesianAcceleration.integrate (a : CartesianAcceleration α) (dt : Duration)
    (now : Instant) : Except (StateError α) (CartesianTwist α) := do
  a.general.assertFilled
  return CartesianScrew.ofParts .twist a.general.name
    (a.general.values.linearAcceleration.scale dt.seconds)
    (a.general.values.angularAcceleration.scale dt.seconds) a.general.frame now

/-- The pose reached by holding the twist for one second. -/
def CartesianPose.ofTwist (t : CartesianTwist α) (now : Instant) :
    Except (StateError α) (CartesianPose α) :=
  CartesianTwist.integrate t (.ofSeconds 1 0) now

/-- The acceleration that reaches the twist from rest in one second. -/
def CartesianAcceleration.ofTwist (t : CartesianTwist α) (now : Instant) :
    Except (StateError α) (CartesianAcceleration α) :=
  CartesianTwist.differentiate t (.ofSeconds 1 0) now

end Kinematics
