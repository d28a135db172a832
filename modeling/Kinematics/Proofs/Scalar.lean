import Mathlib
import Kinematics.Scalar

/-!
# Real scalars

The operations are written for all scalars. At the real numbers every law of arithmetic holds,
so that a statement there is about the formulas and not about rounding.
-/

namespace Kinematics

noncomputable instance : Scalar ℝ where
  toZero := inferInstance
  toOne := inferInstance
  toAdd := inferInstance
  toSub := inferInstance
  toNeg := inferInstance
  toMul := inferInstance
  toDiv := inferInstance
  toNatCast := inferInstance
  toLT := inferInstance
  toLE := inferInstance
  beq x y := decide (x = y)
  decLt := inferInstance
  decLe := inferInstance
  abs x := |x|
  sqrt := Real.sqrt
  sin := Real.sin
  cos := Real.cos
  acos := Real.arccos
  atan2 y x := Complex.arg ⟨x, y⟩
  pi := Real.pi

namespace Scalar

@[simp] theorem two_eq : (two : ℝ) = 2 := by
  simp [two]

@[simp] theorem sqrt_eq (x : ℝ) : sqrt x = Real.sqrt x := rfl

@[simp] theorem sin_eq (x : ℝ) : sin x = Real.sin x := rfl

@[simp] theorem cos_eq (x : ℝ) : cos x = Real.cos x := rfl

section Sum
variable {β : Type} {f g h : β → ℝ}

theorem sum_eq (xs : List ℝ) : sum xs = xs.sum :=
  List.sum_eq_foldl.symm

theorem sum_map_nonneg (hf : ∀ x, 0 ≤ f x) (xs : List β) : 0 ≤ sum (xs.map f) := by
  rw [sum_eq]
  exact List.sum_nonneg (List.forall_mem_map.mpr fun x _ => hf x)

theorem sum_map_eq_zero_iff (hf : ∀ x, 0 ≤ f x) (xs : List β) :
    sum (xs.map f) = 0 ↔ ∀ x ∈ xs, f x = 0 := by
  have hnonneg : ∀ y ∈ xs.map f, 0 ≤ y := List.forall_mem_map.mpr fun x _ => hf x
  have hzero : (xs.map f).sum = 0 ↔ ∀ y ∈ xs.map f, y = 0 :=
    ⟨fun hsum _ => List.all_zero_of_le_zero_le_of_sum_eq_zero hnonneg hsum, List.sum_eq_zero⟩
  rw [sum_eq, hzero, List.forall_mem_map]

theorem sum_map_le_add (hle : ∀ x, f x ≤ g x + h x) (xs : List β) :
    sum (xs.map f) ≤ sum (xs.map g) + sum (xs.map h) := by
  rw [sum_eq, sum_eq, sum_eq, ← List.sum_map_add]
  exact List.sum_le_sum fun x _ => hle x

end Sum

section Norm

theorem norm_nonneg (xs : List ℝ) : 0 ≤ norm xs := Real.sqrt_nonneg _

theorem square_nonneg (x : ℝ) : 0 ≤ square x := mul_self_nonneg x

theorem norm_eq_zero_iff {xs : List ℝ} : norm xs = 0 ↔ ∀ x ∈ xs, x = 0 := by
  rw [norm, sqrt_eq, Real.sqrt_eq_zero (sum_map_nonneg square_nonneg xs),
    sum_map_eq_zero_iff square_nonneg]
  exact forall₂_congr fun x _ => mul_self_eq_zero

theorem norm_map_mul (xs : List ℝ) (k : ℝ) : norm (xs.map (· * k)) = |k| * norm xs := by
  have hsum : sum ((xs.map (· * k)).map square) = k * k * sum (xs.map square) := by
    rw [sum_eq, sum_eq, ← List.sum_map_mul_left, List.map_map]
    congr 2
    funext x
    simp only [Function.comp_apply, square]
    ring
  rw [norm, norm, hsum, sqrt_eq, sqrt_eq, Real.sqrt_mul (mul_self_nonneg k),
    Real.sqrt_mul_self_eq_abs]

theorem norm_singleton (x : ℝ) : norm [x] = |x| := by
  rw [norm, List.map_singleton, sum_eq, List.sum_singleton, square, sqrt_eq,
    Real.sqrt_mul_self_eq_abs]

end Norm

section Tuples
variable {n : ℕ}

theorem zipWith_ofFn {α β γ : Type} (f : α → β → γ) (x : Fin n → α) (y : Fin n → β) :
    List.zipWith f (List.ofFn x) (List.ofFn y) = List.ofFn fun i => f (x i) (y i) := by
  apply List.ext_getElem
  · simp
  · simp

theorem exists_eq_ofFn {α : Type} {xs : List α} (h : xs.length = n) :
    ∃ x : Fin n → α, xs = List.ofFn x := by
  subst h
  exact ⟨xs.get, (List.ofFn_get xs).symm⟩

theorem dot_ofFn (x y : Fin n → ℝ) : dot (List.ofFn x) (List.ofFn y) = dotProduct x y := by
  rw [dot, zipWith_ofFn, sum_eq, List.sum_ofFn, dotProduct]

/-- The length of a list of coordinates is that of a point of Euclidean space. -/
theorem norm_ofFn (x : EuclideanSpace ℝ (Fin n)) : norm (List.ofFn x.ofLp) = ‖x‖ := by
  rw [norm, List.map_ofFn, sum_eq, List.sum_ofFn, EuclideanSpace.norm_eq, sqrt_eq]
  simp only [Function.comp_apply, square, Real.norm_eq_abs, sq_abs, ← sq]

end Tuples

theorem rotationEpsilon_pos : (0 : ℝ) < rotationEpsilon := by
  simp [rotationEpsilon]

theorem rotationEpsilon_le_one : (rotationEpsilon : ℝ) ≤ 1 := by
  norm_num [rotationEpsilon]

/-- The angle of a point of the unit circle. -/
theorem atan2_sin_cos {angle : ℝ} (h : angle ∈ Set.Ioc (-Real.pi) Real.pi) :
    atan2 (Real.sin angle) (Real.cos angle) = angle := by
  change Complex.arg ⟨Real.cos angle, Real.sin angle⟩ = angle
  rw [Complex.mk_eq_add_mul_I, Complex.ofReal_cos, Complex.ofReal_sin,
    Complex.arg_cos_add_sin_mul_I h]

end Scalar
end Kinematics
