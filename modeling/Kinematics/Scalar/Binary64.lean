import Kinematics.Scalar

/-!
# Binary64 scalars
-/

namespace Kinematics

instance : Scalar Float where
  zero := 0.0
  one := 1.0
  natCast := Float.ofNat
  decLt := inferInstance
  decLe := inferInstance
  abs := Float.abs
  sqrt := Float.sqrt
  sin := Float.sin
  cos := Float.cos
  acos := Float.acos
  atan2 := Float.atan2
  pi := 3.141592653589793

instance : Unbounded Float where
  infinity := 1.0 / 0.0

end Kinematics
