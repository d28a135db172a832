import Kinematics.Error

/-!
# Limits

The largest magnitude that a quantity may take, and a dead zone below which it is noise, given
as a fraction of that magnitude.
-/

namespace Kinematics

/-- Limits for the linear and the angular vector of a screw. -/
structure CartesianLimits (α : Type) where
  maxLinear : α
  maxAngular : α
  linearRatio : α
  angularRatio : α

/-- A limit and a dead zone for each joint. -/
structure JointLimits (α : Type) where
  maxima : List α
  ratios : List α

variable {α : Type}

def JointLimits.size (l : JointLimits α) : Nat := l.maxima.length

def JointLimits.isEmpty (l : JointLimits α) : Bool := l.maxima.isEmpty

variable [Scalar α]

/-- A ratio lies between 0 and 1, and an unbounded magnitude has no dead zone. -/
def validateDeadZone (bound ratio : α) : Except (StateError α) Unit := do
  if !(decide (0 ≤ ratio) && decide (ratio ≤ 1)) then throw (.ratioOutOfRange ratio)
  if !(ratio == 0) && Scalar.isInfinite bound then throw .unboundedDeadZone

/-- Neither negative nor a NaN. -/
def isLimit (bound : α) : Bool := !(Scalar.isNaN bound || decide (bound < 0))

namespace CartesianLimits

/-- Limits without a dead zone. -/
def new (maxLinear maxAngular : α) : CartesianLimits α := ⟨maxLinear, maxAngular, 0, 0⟩

def unlimited [Unbounded α] : CartesianLimits α := new Unbounded.infinity Unbounded.infinity

def deadZone (l : CartesianLimits α) (linearRatio angularRatio : α) : CartesianLimits α :=
  { l with linearRatio, angularRatio }

def validate (l : CartesianLimits α) : Except (StateError α) Unit := do
  if !isLimit l.maxLinear then throw .negativeMaxLinear
  if !isLimit l.maxAngular then throw .negativeMaxAngular
  validateDeadZone l.maxLinear l.linearRatio
  validateDeadZone l.maxAngular l.angularRatio

end CartesianLimits

namespace JointLimits

/-- Limits without a dead zone. -/
def new (maxima : List α) : JointLimits α := ⟨maxima, maxima.map fun _ => 0⟩

/-- The same limit and dead zone for every joint. -/
def uniform (joints : Nat) (bound ratio : α) : JointLimits α :=
  ⟨List.replicate joints bound, List.replicate joints ratio⟩

def deadZone (l : JointLimits α) (ratios : List α) : JointLimits α := { l with ratios }

def validate (l : JointLimits α) : Except (StateError α) Unit := do
  if l.ratios.length ≠ l.maxima.length then
    throw (.ratioCount l.ratios.length l.maxima.length)
  if !l.maxima.all isLimit then throw .negativeJointLimit
  (l.maxima.zip l.ratios).forM fun (bound, ratio) => validateDeadZone bound ratio

end JointLimits
end Kinematics
