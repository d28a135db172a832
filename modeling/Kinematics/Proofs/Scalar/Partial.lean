import Kinematics.Proofs.Scalar

/-!
# Real scalars with an undefined value

The reals give a number to every quotient and to every root, zero where there is none. Here a quotient
by zero and the root of a negative number are undefined instead. All that is computed from something
undefined is undefined, and it is neither equal to nor less than anything. So a computation that ends
in a number has divided by no zero and has taken the root of no negative number on the way to it.
-/

namespace Kinematics

inductive PartialReal where
  | undefined
  | defined (x : ℝ)

namespace PartialReal

def map (f : ℝ → ℝ) : PartialReal → PartialReal
  | undefined => undefined
  | defined x => defined (f x)

open Classical in
/-- The function is undefined outside its domain. -/
noncomputable def mapOn (domain : Set ℝ) (f : ℝ → ℝ) : PartialReal → PartialReal
  | undefined => undefined
  | defined x => if x ∈ domain then defined (f x) else undefined

def combine (f : ℝ → ℝ → ℝ) : PartialReal → PartialReal → PartialReal
  | defined x, defined y => defined (f x y)
  | _, _ => undefined

open Classical in
noncomputable def quotient : PartialReal → PartialReal → PartialReal
  | defined x, defined y => if y = 0 then undefined else defined (x / y)
  | _, _ => undefined

def Related (R : ℝ → ℝ → Prop) : PartialReal → PartialReal → Prop
  | defined x, defined y => R x y
  | _, _ => False

open Classical in
noncomputable instance : Scalar PartialReal where
  zero := defined 0
  one := defined 1
  add := combine (· + ·)
  sub := combine (· - ·)
  neg := map (- ·)
  mul := combine (· * ·)
  div := quotient
  natCast n := defined n
  lt := Related (· < ·)
  le := Related (· ≤ ·)
  beq x y := decide (Related (· = ·) x y)
  decLt _ _ := inferInstance
  decLe _ _ := inferInstance
  abs := map (|·|)
  sqrt := mapOn (Set.Ici 0) Real.sqrt
  sin := map Real.sin
  cos := map Real.cos
  acos := mapOn (Set.Icc (-1) 1) Real.arccos
  atan2 := combine fun y x => Complex.arg ⟨x, y⟩
  pi := defined Real.pi

section Defined
variable (x y : ℝ)

theorem zero_eq : (0 : PartialReal) = defined 0 := rfl

theorem two_eq : (Scalar.two : PartialReal) = defined 2 :=
  congrArg defined (Nat.cast_ofNat (R := ℝ))

theorem pi_eq : (Scalar.pi : PartialReal) = defined Real.pi := rfl

theorem defined_add : defined x + defined y = defined (x + y) := rfl

theorem defined_sub : defined x - defined y = defined (x - y) := rfl

theorem defined_mul : defined x * defined y = defined (x * y) := rfl

theorem neg_defined : -defined x = defined (-x) := rfl

theorem atan2_defined :
    Scalar.atan2 (defined y) (defined x) = defined (Complex.arg ⟨x, y⟩) := rfl

theorem defined_lt : defined x < defined y ↔ x < y := Iff.rfl

variable {x y}

theorem defined_beq : (defined x == defined y) = true ↔ x = y :=
  @decide_eq_true_iff (x = y) _

theorem defined_div (hy : y ≠ 0) : defined x / defined y = defined (x / y) := if_neg hy

theorem sqrt_defined (hx : 0 ≤ x) : Scalar.sqrt (defined x) = defined (Real.sqrt x) := if_pos hx

theorem sqrt_of_neg (hx : x < 0) : Scalar.sqrt (defined x) = undefined := if_neg (not_le.mpr hx)

theorem defined_div_zero (x : ℝ) : defined x / defined 0 = undefined := if_pos rfl

theorem sum_map_defined (xs : List ℝ) :
    Scalar.sum (xs.map defined) = defined (Scalar.sum xs) := by
  have hfold (start : ℝ) :
      (xs.map defined).foldl (· + ·) (defined start) = defined (xs.foldl (· + ·) start) := by
    induction xs generalizing start with
    | nil => rfl
    | cons x xs ih => exact ih (start + x)
  exact hfold 0

theorem norm_map_defined (xs : List ℝ) :
    Scalar.norm (xs.map defined) = defined (Scalar.norm xs) := by
  have hsquares : (xs.map defined).map Scalar.square = (xs.map Scalar.square).map defined := by
    rw [List.map_map, List.map_map]
    rfl
  rw [Scalar.norm, hsquares, sum_map_defined,
    sqrt_defined (Scalar.sum_map_nonneg Scalar.square_nonneg xs), Scalar.norm, Scalar.sqrt_eq]

end Defined

section Undefined

theorem neg_undefined : -undefined = undefined := rfl

theorem undefined_div (y : PartialReal) : undefined / y = undefined := rfl

theorem not_lt_undefined (x : PartialReal) : ¬x < undefined := by
  intro h
  cases x with
  | undefined => exact h
  | defined x => exact h

end Undefined

/-- What is greater than something is a number. -/
theorem isFinite_of_lt {x y : PartialReal} (h : x < y) : Scalar.isFinite y = true := by
  cases y with
  | undefined => exact absurd h (not_lt_undefined x)
  | defined y =>
    rw [Scalar.isFinite, defined_sub, sub_self]
    exact defined_beq.mpr rfl

end PartialReal
end Kinematics
