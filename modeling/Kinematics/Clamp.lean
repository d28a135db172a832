import Kinematics.Scalar

/-!
# Bounds with a dead zone
-/

namespace Kinematics

/-- What a bound does to a quantity. -/
inductive ClampAction (α : Type) where
  | silence
  | shrink (factor : α)
  | keep

namespace ClampAction
variable {α : Type} [Scalar α]

/-- A magnitude below the fraction `ratio` of the bound is noise, and one above the bound is
brought back to it. The ratio zero means that there is no dead zone. -/
def of (magnitude bound ratio : α) : ClampAction α :=
  if !(ratio == 0) && decide (magnitude < ratio * bound) then silence
  else if bound < magnitude then shrink (bound / magnitude)
  else keep

def apply : ClampAction α → α → α
  | silence, _ => 0
  | shrink factor, x => x * factor
  | keep, x => x

end ClampAction
end Kinematics
