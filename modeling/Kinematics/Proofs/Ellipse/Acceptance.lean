import Kinematics.Proofs.Ellipse
import Kinematics.Proofs.Scalar.Partial

/-!
# Which equations are accepted as ellipses

With a root and a quotient that can be undefined, an equation is accepted exactly when its form has
one sign and it has more than one solution, and then all numbers of the ellipse are defined.
-/

namespace Kinematics

theorem Ellipsoid.ofEquation_of_length {α : Type} [Scalar α] {coefficients : List α}
    (h : coefficients.length ≠ 6) (name frame : String) (now : Instant) :
    Ellipsoid.ofEquation name coefficients frame now =
      .error (.wrongSize .ellipseCoefficients 6 coefficients.length) := by
  unfold Ellipsoid.ofEquation
  split
  case h_1 => exact absurd rfl h
  case h_2 => rfl

namespace Conic
open PartialReal
variable {k : Conic} {name frame : String} {now : Instant}

/-- The ellipse of the conic, with all its numbers defined. -/
noncomputable def definedEllipse (k : Conic) (name frame : String) (now : Instant) :
    Ellipsoid PartialReal :=
  (((Ellipsoid.new name frame now).setCenterPosition
    ⟨defined k.centerX, defined k.centerY, 0⟩).setAxes (defined k.axisX) (defined k.axisY)).setAngle
    (defined k.angle)

section Outcome

private theorem checked_iff (x y : PartialReal) :
    (!(Scalar.isFinite x && Scalar.isFinite y && decide (0 < x) && decide (0 < y))) = true ↔
      ¬(0 < x ∧ 0 < y) := by
  rw [Bool.not_eq_true', ← Bool.not_eq_true, not_iff_not]
  constructor
  · intro h
    simp only [Bool.and_eq_true, decide_eq_true_iff] at h
    exact ⟨h.1.2, h.2⟩
  · rintro ⟨hx, hy⟩
    simp only [isFinite_of_lt hx, isFinite_of_lt hy, hx, hy, decide_true, Bool.and_self]

private theorem halfAxis_defined {δ radicand : ℝ} (hδ : δ < 0) (h : 0 ≤ radicand) :
    -Scalar.sqrt (defined radicand) / defined δ = defined (-Real.sqrt radicand / δ) := by
  rw [sqrt_defined h, neg_defined, defined_div hδ.ne]

private theorem halfAxis_pos_iff {δ radicand : ℝ} (hδ : δ < 0) :
    0 < -Scalar.sqrt (defined radicand) / defined δ ↔ 0 < radicand := by
  by_cases h : 0 ≤ radicand
  · rw [halfAxis_defined hδ h, zero_eq, defined_lt, neg_div, ← div_neg,
      div_pos_iff_of_pos_right (neg_pos.mpr hδ), Real.sqrt_pos]
  · have hundefined : -Scalar.sqrt (defined radicand) / defined δ = undefined := by
      rw [sqrt_of_neg (not_le.mp h), neg_undefined, undefined_div]
    rw [hundefined]
    exact iff_of_false (not_lt_undefined 0) fun hpos => h hpos.le

private theorem angle_defined (k : Conic) :
    (if !(defined k.b == 0) then Scalar.atan2 (defined (k.c - k.a - k.spread)) (defined k.b)
      else if defined k.c < defined k.a then Scalar.pi / defined 2 else 0) = defined k.angle := by
  by_cases hb : k.b = 0
  · have hzero : (defined k.b == 0) = true := defined_beq.mpr hb
    rw [angle, if_neg (not_not.mpr hb), hzero, pi_eq, defined_div two_ne_zero]
    exact (apply_ite defined _ _ _).symm
  · have hzero : (defined k.b == 0) = false := by
      rw [← Bool.not_eq_true]
      exact fun h => hb (defined_beq.mp h)
    rw [angle, if_pos hb, hzero, Bool.not_false, if_pos rfl, atan2_defined]

theorem ofEquation_defined (k : Conic) (name frame : String) (now : Instant) :
    Ellipsoid.ofEquation name (k.coefficients.map defined) frame now =
      if 0 ≤ k.discriminant then .error (.notAnEllipse (defined k.discriminant))
      else if 0 < k.determinant * (k.a + k.c + k.spread) ∧
          0 < k.determinant * (k.a + k.c - k.spread) then .ok (k.definedEllipse name frame now)
      else .error .degenerateEllipse := by
  have hspread : Scalar.sqrt (defined ((k.a - k.c) * (k.a - k.c) + k.b * k.b)) =
      defined k.spread := sqrt_defined k.spread_radicand_nonneg
  have hdiscriminant : k.b * k.b - 2 * 2 * k.a * k.c = k.discriminant := rfl
  have hdeterminant : 2 * (k.a * k.e * k.e + k.c * k.d * k.d - k.b * k.d * k.e +
      k.discriminant * k.f) = k.determinant := rfl
  simp only [Ellipsoid.ofEquation, coefficients, List.map, two_eq, defined_mul, defined_sub,
    defined_add, hspread, hdiscriminant, hdeterminant, angle_defined]
  by_cases hδ : 0 ≤ k.discriminant
  · rw [if_pos hδ]
    exact if_pos hδ
  · rw [if_neg hδ]
    refine (if_neg hδ).trans ?_
    rw [not_le] at hδ
    simp only [checked_iff]
    simp only [halfAxis_pos_iff hδ]
    by_cases haxes : 0 < k.determinant * (k.a + k.c + k.spread) ∧
        0 < k.determinant * (k.a + k.c - k.spread)
    · rw [if_pos haxes, halfAxis_defined hδ haxes.1.le, halfAxis_defined hδ haxes.2.le,
        defined_div hδ.ne, defined_div hδ.ne]
      exact if_neg (not_not.mpr haxes)
    · rw [if_neg haxes]
      exact if_pos haxes

theorem ofEquation_defined_eq_ok_iff {e : Ellipsoid PartialReal} :
    Ellipsoid.ofEquation name (k.coefficients.map defined) frame now = .ok e ↔
      k.Elliptic ∧ e = k.definedEllipse name frame now := by
  rw [ofEquation_defined]
  split
  case isTrue hδ =>
    exact ⟨nofun, fun h => absurd h.1.discriminant_neg hδ.not_gt⟩
  case isFalse hδ =>
    split
    case isTrue haxes =>
      rw [Except.ok.injEq, eq_comm]
      exact (and_iff_right ⟨not_le.mp hδ, haxes.1, haxes.2⟩).symm
    case isFalse haxes =>
      exact ⟨nofun, fun h => absurd ⟨h.1.upper_pos, h.1.lower_pos⟩ haxes⟩

theorem kind_of_ofEquation_defined {error : StateError PartialReal}
    (h : Ellipsoid.ofEquation name (k.coefficients.map defined) frame now = .error error) :
    error.kind = .invalidParameter := by
  rw [ofEquation_defined] at h
  split at h
  case isTrue => rw [← Except.error.inj h, StateError.kind]
  case isFalse =>
    split at h
    case isTrue => nomatch h
    case isFalse => rw [← Except.error.inj h, StateError.kind]

theorem toList_definedEllipse (k : Conic) (name frame : String) (now : Instant) :
    (k.definedEllipse name frame now).toList =
      .ok ([k.centerX, k.centerY, 0, k.angle, k.axisX, k.axisY].map defined) := rfl

end Outcome

section Solutions

/-- A solution off the center makes the conic an ellipse. -/
theorem elliptic_of_solution (h : k.discriminant < 0) {p : Vector3 ℝ} (hp : p ∈ k.solutions)
    (hne : p ≠ ⟨k.centerX, k.centerY, 0⟩) : k.Elliptic := by
  obtain ⟨hz, hvalue⟩ := hp
  have hoff : p.x - k.centerX ≠ 0 ∨ p.y - k.centerY ≠ 0 := by
    by_contra! hzero
    exact hne (Vector3.ext (sub_eq_zero.mp hzero.1) (sub_eq_zero.mp hzero.2) hz)
  have hform : k.form (p.x - k.centerX) (p.y - k.centerY) = -k.centerValue := by
    have hcenter := value_center_add h.ne (p.x - k.centerX) (p.y - k.centerY)
    rw [add_sub_cancel, add_sub_cancel, hvalue] at hcenter
    exact eq_neg_of_add_eq_zero_left hcenter.symm
  have hpos := trace_mul_form_pos h hoff
  have hscale : 0 < -(2 * k.discriminant) := neg_pos.mpr (mul_neg_of_pos_of_neg two_pos h)
  rw [hform, centerValue, ← div_neg, mul_div_assoc', div_pos_iff_of_pos_right hscale] at hpos
  rw [elliptic_iff_trace h, mul_comm]
  exact hpos

/-- The two ends of an axis solve the equation. -/
theorem Elliptic.solutions_nontrivial (hk : k.Elliptic) : k.solutions.Nontrivial := by
  obtain ⟨hX, -⟩ := (elliptic_iff hk.discriminant_neg).mp hk
  have hend (r : ℝ) (hr : (r / k.axisX) ^ 2 = 1) :
      (⟨k.centerX + Real.cos k.angle * r, k.centerY + Real.sin k.angle * r, 0⟩ : Vector3 ℝ) ∈
        k.solutions := by
    have hvalue := (hk.value_eq_zero_iff k.principal_angle r 0).mpr (by rw [hr]; simp)
    rw [mul_zero, mul_zero, sub_zero, add_zero] at hvalue
    exact ⟨rfl, hvalue⟩
  refine ⟨_, hend k.axisX ?_, _, hend (-k.axisX) ?_, ?_⟩
  · rw [div_self hX.ne', one_pow]
  · rw [neg_div, div_self hX.ne', neg_sq, one_pow]
  · intro heq
    obtain ⟨hx, hy, -⟩ := Vector3.ext_iff.mp heq
    have hcos : Real.cos k.angle * k.axisX = 0 := by linarith only [hx]
    have hsin : Real.sin k.angle * k.axisX = 0 := by linarith only [hy]
    have hzero : k.axisX ^ 2 = 0 := by
      linear_combination Real.cos k.angle * k.axisX * hcos + Real.sin k.angle * k.axisX * hsin -
        k.axisX ^ 2 * Real.cos_sq_add_sin_sq k.angle
    exact hX.ne' (sq_eq_zero_iff.mp hzero)

theorem solutions_nontrivial_iff (h : k.discriminant < 0) :
    k.solutions.Nontrivial ↔ k.Elliptic := by
  constructor
  · intro hsolutions
    obtain ⟨p, hp, hne⟩ := hsolutions.exists_ne ⟨k.centerX, k.centerY, 0⟩
    exact elliptic_of_solution h hp hne
  · exact Elliptic.solutions_nontrivial

end Solutions
end Conic

open PartialReal (defined)

/-- Just the equations of ellipses are accepted: those with a form of one sign and more than one
solution. On the way to an accepted ellipse nothing undefined is met. -/
theorem equation_accepted_iff_ellipse :
    (∀ {α : Type} [Scalar α] (name : String) (coefficients : List α) (frame : String)
        (now : Instant), coefficients.length ≠ 6 →
      ∃ error, Ellipsoid.ofEquation name coefficients frame now = .error error ∧
        error.kind = .incompatibleSize) ∧
    ∀ (k : Conic) (name frame : String) (now : Instant),
      let outcome := Ellipsoid.ofEquation name (k.coefficients.map defined) frame now
      ((∃ e, outcome = .ok e) ↔
        k.b ^ 2 - 4 * k.a * k.c < 0 ∧ k.solutions.Nontrivial) ∧
      (k.b ^ 2 - 4 * k.a * k.c < 0 → (k.solutions.Nontrivial ↔
        0 < (k.a + k.c) * (k.a * k.e ^ 2 + k.c * k.d ^ 2 - k.b * k.d * k.e +
          (k.b ^ 2 - 4 * k.a * k.c) * k.f))) ∧
      (∀ error, outcome = .error error → error.kind = .invalidParameter) ∧
      ∀ e, outcome = .ok e → ∃ real numbers,
        Ellipsoid.ofEquation name k.coefficients frame now = .ok real ∧
        real.toList = .ok numbers ∧ e.toList = .ok (numbers.map defined) := by
  constructor
  · intro α _ name coefficients frame now hlength
    exact ⟨_, Ellipsoid.ofEquation_of_length hlength name frame now, rfl⟩
  · intro k name frame now outcome
    have hdiscriminant : k.b ^ 2 - 4 * k.a * k.c = k.discriminant := by
      unfold Conic.discriminant
      ring
    rw [hdiscriminant]
    refine ⟨?_, ?_, ?_, ?_⟩
    · simp only [outcome, Conic.ofEquation_defined_eq_ok_iff, exists_and_left, exists_eq, and_true]
      constructor
      · intro hk
        exact ⟨hk.discriminant_neg, hk.solutions_nontrivial⟩
      · rintro ⟨hδ, hsolutions⟩
        exact (Conic.solutions_nontrivial_iff hδ).mp hsolutions
    · intro hδ
      have hdeterminant : k.determinant * (k.a + k.c) = 2 * ((k.a + k.c) * (k.a * k.e ^ 2 +
          k.c * k.d ^ 2 - k.b * k.d * k.e + k.discriminant * k.f)) := by
        unfold Conic.determinant
        ring
      rw [Conic.solutions_nontrivial_iff hδ, Conic.elliptic_iff_trace hδ, hdeterminant,
        mul_pos_iff_of_pos_left two_pos]
    · intro error herror
      exact Conic.kind_of_ofEquation_defined herror
    · intro e he
      obtain ⟨hk, rfl⟩ := Conic.ofEquation_defined_eq_ok_iff.mp he
      exact ⟨k.ellipse name frame now, _, Conic.ofEquation_eq_ok_iff.mpr ⟨hk, rfl⟩, rfl,
        k.toList_definedEllipse name frame now⟩

/-- A tilted ellipse with a form of negative sign, an equation without solutions and one number. -/
theorem equation_accepted_iff_ellipse_negative :
    let outcome (k : Conic) := Ellipsoid.ofEquation "e" (k.coefficients.map defined) "world" ⟨0⟩
    let tilted : Conic := ⟨-5, 6, -5, -2, 14, -5⟩
    let imaginary : Conic := ⟨1, 0, 1, 0, 0, 1⟩
    (∃ (e : Ellipsoid PartialReal) (numbers : List ℝ), outcome tilted = .ok e ∧
      e.toList = .ok (numbers.map defined)) ∧
    tilted.solutions.Nontrivial ∧
    (∃ error, outcome imaginary = .error error ∧ error.kind = .invalidParameter) ∧
    ∃ error, Ellipsoid.ofEquation "e" [(1 : PartialReal)] "world" ⟨0⟩ = .error error ∧
      error.kind = .incompatibleSize := by
  intro outcome tilted imaginary
  obtain ⟨hlength, hcoefficients⟩ := equation_accepted_iff_ellipse
  obtain ⟨haccepted, hmore, -, hdefined⟩ := hcoefficients tilted "e" "world" ⟨0⟩
  obtain ⟨hrefused, hfewer, hkind, -⟩ := hcoefficients imaginary "e" "world" ⟨0⟩
  have hnontrivial : tilted.solutions.Nontrivial :=
    (hmore (by norm_num [tilted])).mpr (by norm_num [tilted])
  have htrivial : ¬imaginary.solutions.Nontrivial := by
    rw [hfewer (by norm_num [imaginary])]
    norm_num [imaginary]
  obtain ⟨e, he⟩ := haccepted.mpr ⟨by norm_num [tilted], hnontrivial⟩
  obtain ⟨-, numbers, -, -, hnumbers⟩ := hdefined e he
  refine ⟨⟨e, numbers, he, hnumbers⟩, hnontrivial, ?_, hlength "e" [1] "world" ⟨0⟩ (by decide)⟩
  cases hcase : outcome imaginary with
  | error error => exact ⟨error, rfl, hkind error hcase⟩
  | ok e => exact absurd (hrefused.mp ⟨e, hcase⟩).2 htrivial

end Kinematics
