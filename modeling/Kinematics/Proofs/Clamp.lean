import Kinematics.Proofs.Scalar.Partial
import Kinematics.Clamp

/-!
# What a bound does to real numbers

A bound multiplies numbers by a factor that depends on their magnitude. Under a bound that is not
negative the factor lies between zero and one. A negative bound is divided by the magnitude as well,
which reverses the numbers, or divides by zero.
-/

namespace Kinematics

/-- The bound is not negative, or the magnitude is in its dead zone. -/
def Covers (bound ratio magnitude : ℝ) : Prop :=
  0 ≤ bound ∨ ratio ≠ 0 ∧ magnitude < ratio * bound

namespace ClampAction

def map {α β : Type} (f : α → β) : ClampAction α → ClampAction β
  | silence => silence
  | shrink factor => shrink (f factor)
  | keep => keep

/-- The number by which the action multiplies. -/
def factor : ClampAction ℝ → ℝ
  | silence => 0
  | shrink factor => factor
  | keep => 1

theorem apply_eq (action : ClampAction ℝ) (x : ℝ) : action.apply x = x * action.factor := by
  cases action with
  | silence => exact (mul_zero x).symm
  | shrink factor => rfl
  | keep => exact (mul_one x).symm

section Factor
variable {magnitude bound ratio : ℝ}

theorem of_eq (magnitude bound ratio : ℝ) :
    of magnitude bound ratio =
      if ratio ≠ 0 ∧ magnitude < ratio * bound then silence
      else if bound < magnitude then shrink (bound / magnitude)
      else keep := by
  have hbeq : (ratio == 0) = decide (ratio = 0) := rfl
  simp [of, hbeq]

theorem factor_of (magnitude bound ratio : ℝ) :
    (of magnitude bound ratio).factor =
      if ratio ≠ 0 ∧ magnitude < ratio * bound then 0
      else if bound < magnitude then bound / magnitude
      else 1 := by
  rw [of_eq]
  split_ifs <;> rfl

/-- Numbers of such a magnitude are brought nearer to zero. -/
theorem factor_mem_Icc (hmagnitude : 0 ≤ magnitude) (h : Covers bound ratio magnitude) :
    (of magnitude bound ratio).factor ∈ Set.Icc 0 1 := by
  rw [factor_of]
  split_ifs with hnoise hlarge
  · exact Set.left_mem_Icc.mpr zero_le_one
  · have hbound : 0 ≤ bound := h.resolve_right hnoise
    exact ⟨div_nonneg hbound hmagnitude, div_le_one_of_le₀ hlarge.le hmagnitude⟩
  · exact Set.right_mem_Icc.mpr zero_le_one

/-- All others are reversed. -/
theorem factor_neg (hmagnitude : 0 < magnitude) (h : ¬Covers bound ratio magnitude) :
    (of magnitude bound ratio).factor = bound / magnitude ∧ bound / magnitude < 0 := by
  obtain ⟨hbound, hnoise⟩ := not_or.mp h
  have hneg : bound < 0 := not_le.mp hbound
  rw [factor_of, if_neg hnoise, if_pos (hneg.trans hmagnitude)]
  exact ⟨rfl, div_neg_of_neg_of_pos hneg hmagnitude⟩

theorem mul_factor_le (hbound : 0 ≤ bound) :
    magnitude * (of magnitude bound ratio).factor ≤ bound := by
  rw [factor_of]
  split_ifs with hnoise hlarge
  · rwa [mul_zero]
  · rw [mul_div_cancel₀ bound (hbound.trans_lt hlarge).ne']
  · rw [mul_one]
    exact not_lt.mp hlarge

theorem mul_factor_eq_zero_or (hmagnitude : 0 ≤ magnitude) (hbound : 0 ≤ bound)
    (hratio : ratio ≤ 1) :
    magnitude * (of magnitude bound ratio).factor = 0 ∨
      ratio * bound ≤ magnitude * (of magnitude bound ratio).factor := by
  rw [factor_of]
  split_ifs with hnoise hlarge
  · exact .inl (mul_zero magnitude)
  · rw [mul_div_cancel₀ bound (hbound.trans_lt hlarge).ne']
    exact .inr (mul_le_of_le_one_left hbound hratio)
  · rw [mul_one]
    obtain hzero | hne := eq_or_ne ratio 0
    · exact .inr (by rwa [hzero, zero_mul])
    · exact .inr (not_lt.mp fun hlt => hnoise ⟨hne, hlt⟩)

theorem factor_eq_one (hnoise : ratio * bound ≤ magnitude) (hlarge : magnitude ≤ bound) :
    (of magnitude bound ratio).factor = 1 := by
  rw [factor_of, if_neg fun h => hnoise.not_gt h.2, if_neg hlarge.not_gt]

/-- The bounded magnitude is left alone by the same bound. -/
theorem factor_mul_factor (hmagnitude : 0 ≤ magnitude) (hbound : 0 ≤ bound) (hratio : ratio ≤ 1)
    {x : ℝ} (hx : magnitude = 0 → x = 0) :
    x * (of magnitude bound ratio).factor *
        (of (magnitude * (of magnitude bound ratio).factor) bound ratio).factor =
      x * (of magnitude bound ratio).factor := by
  obtain hzero | hnoise := mul_factor_eq_zero_or hmagnitude hbound hratio
  · have hx : x * (of magnitude bound ratio).factor = 0 := by
      obtain hmagnitude | hfactor := mul_eq_zero.mp hzero
      · rw [hx hmagnitude, zero_mul]
      · rw [hfactor, mul_zero]
    rw [hx, zero_mul]
  · rw [factor_eq_one hnoise (mul_factor_le hbound), mul_one]

end Factor

section Partial
open PartialReal (defined undefined)
variable {magnitude bound ratio : ℝ}

theorem of_defined (magnitude bound ratio : ℝ) :
    of (defined magnitude) (defined bound) (defined ratio) =
      if ratio ≠ 0 ∧ magnitude < ratio * bound then silence
      else if bound < magnitude then shrink (defined bound / defined magnitude)
      else keep := by
  have hbeq : (defined ratio == 0) = decide (ratio = 0) :=
    Bool.eq_iff_iff.mpr (PartialReal.defined_beq.trans decide_eq_true_iff.symm)
  simp [of, hbeq, PartialReal.defined_mul, PartialReal.defined_lt]

theorem apply_map_defined (action : ClampAction ℝ) (x : ℝ) :
    (action.map defined).apply (defined x) = defined (action.apply x) := by
  cases action <;> rfl

/-- A magnitude by which a bound is divided is not zero. -/
theorem of_defined_eq_map (h : Covers bound ratio magnitude) :
    of (defined magnitude) (defined bound) (defined ratio) =
      (of magnitude bound ratio).map defined := by
  rw [of_defined, of_eq]
  split_ifs with hnoise hlarge
  · rfl
  · have hbound : 0 ≤ bound := h.resolve_right hnoise
    rw [PartialReal.defined_div (hbound.trans_lt hlarge).ne']
    rfl
  · rfl

theorem of_defined_zero (h : ¬Covers bound ratio 0) :
    of (defined 0) (defined bound) (defined ratio) = shrink undefined := by
  obtain ⟨hbound, hnoise⟩ := not_or.mp h
  rw [of_defined, if_neg hnoise, if_pos (not_le.mp hbound), PartialReal.defined_div_zero]

end Partial
end ClampAction

/-- The numbers, bounded as one vector. -/
def limited {α : Type} [Scalar α] (bound ratio : α) (xs : List α) : List α :=
  xs.map (ClampAction.of (Scalar.norm xs) bound ratio).apply

/-- `ys` has the direction of `xs` and is not longer. -/
structure Attenuates (xs ys : List ℝ) : Prop where
  norm_le : Scalar.norm ys ≤ Scalar.norm xs
  direction : ∃ k, 0 ≤ k ∧ ys = xs.map (· * k)

/-- `y` has the sign of `x` and is not larger. -/
structure Weakens (x y : ℝ) : Prop where
  abs_le : |y| ≤ |x|
  sign : ∃ k, 0 ≤ k ∧ y = x * k

section Limited
open PartialReal (defined undefined)
variable {bound ratio : ℝ} {xs : List ℝ}

theorem limited_eq (bound ratio : ℝ) (xs : List ℝ) :
    limited bound ratio xs =
      xs.map (· * (ClampAction.of (Scalar.norm xs) bound ratio).factor) :=
  List.map_congr_left fun x _ => ClampAction.apply_eq _ x

theorem limited_defined (h : Covers bound ratio (Scalar.norm xs)) :
    limited (defined bound) (defined ratio) (xs.map defined) =
      (limited bound ratio xs).map defined := by
  rw [limited, limited, PartialReal.norm_map_defined,
    ClampAction.of_defined_eq_map h, List.map_map, List.map_map]
  exact List.map_congr_left fun x _ => ClampAction.apply_map_defined _ x

theorem attenuates_limited (h : Covers bound ratio (Scalar.norm xs)) :
    Attenuates xs (limited bound ratio xs) := by
  have hnorm := Scalar.norm_nonneg xs
  obtain ⟨hnonneg, hle⟩ := ClampAction.factor_mem_Icc hnorm h
  rw [limited_eq]
  refine ⟨?_, _, hnonneg, rfl⟩
  rw [Scalar.norm_map_mul, abs_of_nonneg hnonneg]
  exact mul_le_of_le_one_left hnorm hle

/-- The exact cases in which a bound shortens numbers and divides by no zero. -/
theorem limited_attenuates_iff (bound ratio : ℝ) (hxs : xs ≠ []) :
    limited (defined bound) (defined ratio) (xs.map defined) =
        (limited bound ratio xs).map defined ∧ Attenuates xs (limited bound ratio xs) ↔
      Covers bound ratio (Scalar.norm xs) := by
  refine ⟨fun ⟨hdefined, hattenuates⟩ => ?_, fun h => ⟨limited_defined h, attenuates_limited h⟩⟩
  by_contra h
  obtain hzero | hpos := (Scalar.norm_nonneg xs).eq_or_lt
  · rw [← hzero] at h
    rw [limited, PartialReal.norm_map_defined, ← hzero, ClampAction.of_defined_zero h] at hdefined
    obtain ⟨x, rest, rfl⟩ := List.exists_cons_of_ne_nil hxs
    exact absurd (List.head_eq_of_cons_eq hdefined) PartialReal.noConfusion
  · obtain ⟨hfactor, hneg⟩ := ClampAction.factor_neg hpos h
    obtain ⟨k, hk, heq⟩ := hattenuates.direction
    obtain ⟨x, hx, hne⟩ : ∃ x ∈ xs, x ≠ 0 := by
      by_contra hnone
      refine hpos.ne' (Scalar.norm_eq_zero_iff.mpr fun x hx => ?_)
      exact by_contra fun hne => hnone ⟨x, hx, hne⟩
    rw [limited_eq, hfactor] at heq
    have hsame : bound / Scalar.norm xs = k :=
      mul_left_cancel₀ hne (List.map_inj_left.mp heq x hx)
    exact hneg.not_ge (hsame ▸ hk)

theorem attenuates_singleton_iff {x y : ℝ} : Attenuates [x] [y] ↔ Weakens x y := by
  have hdirection (k : ℝ) : [y] = [x].map (· * k) ↔ y = x * k := by simp
  constructor
  · intro ⟨hnorm, k, hk, hy⟩
    rw [Scalar.norm_singleton, Scalar.norm_singleton] at hnorm
    exact ⟨hnorm, k, hk, (hdirection k).mp hy⟩
  · intro ⟨habs, k, hk, hy⟩
    refine ⟨?_, k, hk, (hdirection k).mpr hy⟩
    rwa [Scalar.norm_singleton, Scalar.norm_singleton]

/-- A single number is bounded as a vector of one coordinate. -/
theorem apply_weakens_iff (bound ratio x : ℝ) :
    (ClampAction.of (Scalar.abs (defined x)) (defined bound) (defined ratio)).apply (defined x) =
        defined ((ClampAction.of (Scalar.abs x) bound ratio).apply x) ∧
        Weakens x ((ClampAction.of (Scalar.abs x) bound ratio).apply x) ↔
      Covers bound ratio |x| := by
  have hnorm : Scalar.norm [defined x] = Scalar.abs (defined x) :=
    (PartialReal.norm_map_defined [x]).trans (congrArg defined (Scalar.norm_singleton x))
  have hdefined : limited (defined bound) (defined ratio) ([x].map defined) =
      [(ClampAction.of (Scalar.abs (defined x)) (defined bound) (defined ratio)).apply
        (defined x)] := by
    rw [limited, List.map_singleton, hnorm, List.map_singleton]
  have hreal : limited bound ratio [x] =
      [(ClampAction.of (Scalar.abs x) bound ratio).apply x] := by
    rw [limited, Scalar.norm_singleton, List.map_singleton]
    rfl
  have hvector := limited_attenuates_iff bound ratio (List.cons_ne_nil x [])
  rwa [hdefined, hreal, attenuates_singleton_iff, Scalar.norm_singleton, List.map_singleton,
    List.singleton_inj] at hvector

end Limited
end Kinematics
