import Kinematics.Quaternion

/-!
# Logarithm and exponential of unit quaternions

The logarithm of the rotation by the angle `θ` about the unit axis `n` is the pure quaternion
with vector part `θ/2 n`; the exponential goes back.
-/

namespace Kinematics.Quaternion
variable {α : Type} [Scalar α]

def log (q : Quaternion α) : Quaternion α :=
  let v := q.vectorPart
  if v.norm < Scalar.rotationEpsilon then ⟨0, 0, 0, 0⟩
  else ofParts 0 (v.scale (Scalar.atan2 v.norm q.w / v.norm))

/-- The exponential of the pure quaternion with vector part `v` scaled by `scale`. -/
def exp (v : Vector3 α) (scale : α) : Quaternion α :=
  if v.norm < Scalar.rotationEpsilon then identity
  else
    let halfAngle := v.norm * scale
    (ofParts (Scalar.cos halfAngle) (v.scale (Scalar.sin halfAngle / v.norm))).normalize

end Kinematics.Quaternion
