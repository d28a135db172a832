/-!
# Scalars

The numbers that the library computes with. Every operation is written once, for all scalars;
at binary64 it runs, and at other scalars the same definition can be reasoned about.
-/

namespace Kinematics

/-- A number type with the order, the roots and the circular functions that kinematics needs.
`==` is the equality of the number type, which need not be reflexive. -/
class Scalar (α : Type) extends Zero α, One α, Add α, Sub α, Neg α, Mul α, Div α, NatCast α,
    LT α, LE α, BEq α where
  decLt : DecidableLT α
  decLe : DecidableLE α
  abs : α → α
  sqrt : α → α
  sin : α → α
  cos : α → α
  acos : α → α
  /-- The angle of the point with ordinate `y` and abscissa `x`. -/
  atan2 (y x : α) : α
  pi : α

attribute [reducible, instance] Scalar.decLt Scalar.decLe

/-- Scalars with a value above all others. -/
class Unbounded (α : Type) where
  infinity : α

namespace Scalar
variable {α : Type} [Scalar α]

def two : α := ((2 : Nat) : α)

/-- Rotations with a smaller half angle vector count as no rotation. -/
def rotationEpsilon : α := 1 / (Nat.pow 10 12 : α)

/-- Quaternions whose squared norm does not exceed this cannot be normalized. -/
def squaredNormEpsilon : α := 1 / (Nat.pow 2 104 : α)

/-- The one value that differs from itself. -/
def isNaN (x : α) : Bool := !(x == x)

/-- An infinite value or a NaN has no difference to itself. -/
def isFinite (x : α) : Bool := (x - x) == 0

def isInfinite (x : α) : Bool := !isFinite x && !isNaN x

/-- Brings `x` between the bounds; a NaN stays. -/
def clamp (x lower upper : α) : α :=
  if x < lower then lower else if upper < x then upper else x

def square (x : α) : α := x * x

/-- The sum, taken from left to right. -/
def sum (xs : List α) : α := xs.foldl (· + ·) 0

/-- Euclidean length of a list of coordinates. -/
def norm (xs : List α) : α := sqrt (sum (xs.map square))

def dot (xs ys : List α) : α := sum (List.zipWith (· * ·) xs ys)

end Scalar
end Kinematics
