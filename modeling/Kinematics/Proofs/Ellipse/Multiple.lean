import Kinematics.Proofs.Ellipse

/-!
# Multiples of the equation of an ellipse

An equation and its multiples have the same solutions. The ellipses made from them have the same
center and contour, but the sign of the form decides which of the two axes is named first.
-/

namespace Kinematics
namespace Conic
variable {k : Conic} {t : ℝ}

/-- The equation with all its coefficients multiplied. -/
def multiple (t : ℝ) (k : Conic) : Conic :=
  ⟨t * k.a, t * k.b, t * k.c, t * k.d, t * k.e, t * k.f⟩

theorem discriminant_multiple (t : ℝ) (k : Conic) :
    (k.multiple t).discriminant = t ^ 2 * k.discriminant := by
  unfold discriminant multiple
  ring

theorem determinant_multiple (t : ℝ) (k : Conic) :
    (k.multiple t).determinant = t ^ 3 * k.determinant := by
  rw [determinant, discriminant_multiple, determinant]
  unfold multiple
  ring

theorem spread_multiple (t : ℝ) (k : Conic) : (k.multiple t).spread = |t| * k.spread := by
  have hsquare : ((k.multiple t).a - (k.multiple t).c) * ((k.multiple t).a - (k.multiple t).c) +
      (k.multiple t).b * (k.multiple t).b =
        t * t * ((k.a - k.c) * (k.a - k.c) + k.b * k.b) := by
    unfold multiple
    ring
  rw [spread, hsquare, Real.sqrt_mul (mul_self_nonneg t), Real.sqrt_mul_self_eq_abs, spread]

theorem trace_multiple (t : ℝ) (k : Conic) :
    (k.multiple t).a + (k.multiple t).c = t * (k.a + k.c) := (mul_add t k.a k.c).symm

section Center

theorem centerX_multiple (ht : t ≠ 0) : (k.multiple t).centerX = k.centerX := by
  have hnumerator : 2 * (k.multiple t).c * (k.multiple t).d - (k.multiple t).b * (k.multiple t).e =
      t ^ 2 * (2 * k.c * k.d - k.b * k.e) := by
    unfold multiple
    ring
  rw [centerX, hnumerator, discriminant_multiple, mul_div_mul_left _ _ (pow_ne_zero 2 ht), centerX]

theorem centerY_multiple (ht : t ≠ 0) : (k.multiple t).centerY = k.centerY := by
  have hnumerator : 2 * (k.multiple t).a * (k.multiple t).e - (k.multiple t).b * (k.multiple t).d =
      t ^ 2 * (2 * k.a * k.e - k.b * k.d) := by
    unfold multiple
    ring
  rw [centerY, hnumerator, discriminant_multiple, mul_div_mul_left _ _ (pow_ne_zero 2 ht), centerY]

end Center

section Solutions

theorem Elliptic.multiple (hk : k.Elliptic) (ht : t ≠ 0) : (k.multiple t).Elliptic := by
  have hδ := hk.discriminant_neg
  have hδ' : (k.multiple t).discriminant < 0 := by
    rw [discriminant_multiple]
    exact mul_neg_of_pos_of_neg (sq_pos_iff.mpr ht) hδ
  rw [elliptic_iff_trace hδ', determinant_multiple, trace_multiple]
  have hscaled : t ^ 3 * k.determinant * (t * (k.a + k.c)) =
      (t ^ 2) ^ 2 * (k.determinant * (k.a + k.c)) := by ring
  rw [hscaled]
  exact mul_pos (sq_pos_iff.mpr (pow_ne_zero 2 ht)) ((elliptic_iff_trace hδ).mp hk)

theorem solutions_multiple (ht : t ≠ 0) : (k.multiple t).solutions = k.solutions := by
  ext p
  have hvalue : (k.multiple t).value p.x p.y = t * k.value p.x p.y := by
    unfold value form multiple
    ring
  show p.z = 0 ∧ (k.multiple t).value p.x p.y = 0 ↔ p.z = 0 ∧ k.value p.x p.y = 0
  rw [hvalue, mul_eq_zero, or_iff_right ht]

end Solutions

section Axes

private theorem halfAxis_multiple (ht : t ≠ 0) {s s' : ℝ} (hs : s' = t * s) :
    -Real.sqrt ((k.multiple t).determinant * ((k.multiple t).a + (k.multiple t).c + s')) /
        (k.multiple t).discriminant =
      -Real.sqrt (k.determinant * (k.a + k.c + s)) / k.discriminant := by
  have hradicand : (k.multiple t).determinant * ((k.multiple t).a + (k.multiple t).c + s') =
      t ^ 2 * t ^ 2 * (k.determinant * (k.a + k.c + s)) := by
    rw [determinant_multiple, trace_multiple, hs]
    ring
  -- the square of the factor leaves the root, and the discriminant's own cancels it
  rw [hradicand, discriminant_multiple, Real.sqrt_mul (mul_self_nonneg _),
    Real.sqrt_mul_self (sq_nonneg t), ← mul_neg, mul_div_mul_left _ _ (pow_ne_zero 2 ht)]

theorem axes_multiple_of_pos (ht : 0 < t) :
    (k.multiple t).axisX = k.axisX ∧ (k.multiple t).axisY = k.axisY := by
  have hspread := spread_multiple t k
  rw [abs_of_pos ht] at hspread
  constructor
  · exact halfAxis_multiple ht.ne' hspread
  · rw [axisY, axisY, sub_eq_add_neg, sub_eq_add_neg]
    exact halfAxis_multiple ht.ne' (by rw [hspread, mul_neg])

/-- A negative factor turns the greater eigenvalue into the lesser one. -/
theorem axes_multiple_of_neg (ht : t < 0) :
    (k.multiple t).axisX = k.axisY ∧ (k.multiple t).axisY = k.axisX := by
  have hspread := spread_multiple t k
  rw [abs_of_neg ht, neg_mul] at hspread
  constructor
  · rw [axisX, axisY, sub_eq_add_neg]
    exact halfAxis_multiple ht.ne (by rw [hspread, mul_neg])
  · rw [axisY, axisX, sub_eq_add_neg]
    exact halfAxis_multiple ht.ne (by rw [hspread, neg_neg])

theorem spread_eq_zero_iff : k.spread = 0 ↔ k.b = 0 ∧ k.a = k.c := by
  rw [spread, Real.sqrt_eq_zero k.spread_radicand_nonneg, mul_self_add_mul_self_eq_zero, sub_eq_zero, and_comm]

/-- The first axis is the major one of a form of positive sign. -/
theorem Elliptic.axisY_le_axisX_iff (hk : k.Elliptic) :
    k.axisY ≤ k.axisX ↔ 0 < k.a + k.c ∨ k.b = 0 ∧ k.a = k.c := by
  have htrace := (elliptic_iff_trace hk.discriminant_neg).mp hk
  have hspread : 0 ≤ k.spread := Real.sqrt_nonneg _
  have hroots : k.axisY ≤ k.axisX ↔ 0 ≤ k.determinant * k.spread := by
    rw [axisX, axisY, div_le_div_right_of_neg hk.discriminant_neg, neg_le_neg_iff,
      Real.sqrt_le_sqrt_iff hk.upper_pos.le]
    constructor <;> intro h <;> linarith only [h]
  rw [hroots, ← spread_eq_zero_iff]
  constructor
  · intro h
    by_cases hzero : k.spread = 0
    · exact .inr hzero
    · have hnonneg : 0 ≤ k.determinant :=
        nonneg_of_mul_nonneg_left h (lt_of_le_of_ne hspread (Ne.symm hzero))
      have hpos : 0 < k.determinant := lt_of_le_of_ne hnonneg (left_ne_zero_of_mul htrace.ne').symm
      exact .inl ((pos_iff_pos_of_mul_pos htrace).mp hpos)
  · rintro (hpos | hzero)
    · exact mul_nonneg ((pos_iff_pos_of_mul_pos htrace).mpr hpos).le hspread
    · rw [hzero, mul_zero]

end Axes

section Angle

theorem angle_multiple_of_pos (ht : 0 < t) : (k.multiple t).angle = k.angle := by
  have hmixed : (k.multiple t).b ≠ 0 ↔ k.b ≠ 0 := mul_ne_zero_iff.trans (and_iff_right ht.ne')
  have hless : (k.multiple t).c < (k.multiple t).a ↔ k.c < k.a := mul_lt_mul_iff_right₀ ht
  have hvector : (⟨(k.multiple t).b, (k.multiple t).c - (k.multiple t).a - (k.multiple t).spread⟩ :
      ℂ) = t * ⟨k.b, k.c - k.a - k.spread⟩ := by
    rw [spread_multiple, abs_of_pos ht]
    apply Complex.ext
    · rw [Complex.re_ofReal_mul]
      rfl
    · rw [Complex.im_ofReal_mul]
      show t * k.c - t * k.a - t * k.spread = t * (k.c - k.a - k.spread)
      ring
  simp only [angle, hmixed, hless, hvector, Complex.arg_real_mul _ ht]

/-- The eigenvectors of the lower eigenvalue of a negative multiple are those of the upper one, and
eigenvectors of different eigenvalues are orthogonal. -/
theorem Principal.cos_sub_eq_zero {θ θ' : ℝ} (h : k.Principal θ) (h' : (k.multiple t).Principal θ')
    (ht : t < 0) (hne : k.spread ≠ 0) : Real.cos (θ' - θ) = 0 := by
  have hlower : (k.multiple t).lower = t * k.upper := by
    rw [lower, upper, trace_multiple, spread_multiple, abs_of_neg ht]
    ring
  have hfirst : t * k.a * Real.cos θ' + t * k.b / 2 * Real.sin θ' = t * k.upper * Real.cos θ' := by
    rw [← hlower]
    exact h'.first
  have hsecond : t * k.b / 2 * Real.cos θ' + t * k.c * Real.sin θ' = t * k.upper * Real.sin θ' := by
    rw [← hlower]
    exact h'.second
  have hspread : k.upper - k.lower = k.spread := by
    unfold upper lower
    ring
  refine (mul_eq_zero.mp ?_).resolve_left (mul_ne_zero ht.ne hne)
  rw [Real.cos_sub, ← hspread]
  linear_combination t * Real.cos θ' * h.first + t * Real.sin θ' * h.second -
    Real.cos θ * hfirst - Real.sin θ * hsecond

theorem angle_multiple_of_neg (ht : t < 0) (hne : k.spread ≠ 0) :
    ∃ n : ℤ, (k.multiple t).angle = k.angle + Real.pi / 2 + n * Real.pi := by
  have hcos := k.principal_angle.cos_sub_eq_zero (k.multiple t).principal_angle ht hne
  obtain ⟨n, hn⟩ := Real.cos_eq_zero_iff.mp hcos
  refine ⟨n, ?_⟩
  linear_combination hn

theorem angle_of_circle (hb : k.b = 0) (hac : k.a = k.c) : k.angle = 0 := by
  rw [angle, if_neg (not_not.mpr hb), if_neg hac.not_gt]

end Angle
end Conic

/-- The first axis of an accepted ellipse is the major one if the form of the equation is positive,
and the minor one if it is negative. So a positive multiple of the equation leads to the same ellipse,
and a negative one to the same contour about the same center with the axes swapped. -/
theorem axes_follow_sign_of_form (k : Conic) (name frame : String) (now : Instant) (e : Ellipsoid ℝ)
    (he : Ellipsoid.ofEquation name k.coefficients frame now = .ok e) :
    (e.axisY ≤ e.axisX ↔ 0 < k.a + k.c ∨ k.b = 0 ∧ k.a = k.c) ∧
    ∀ t ≠ 0, ∃ e', Ellipsoid.ofEquation name (k.coefficients.map (t * ·)) frame now = .ok e' ∧
      e'.centerPosition = e.centerPosition ∧ e'.contour = e.contour ∧
      (0 < t → e'.axisX = e.axisX ∧ e'.axisY = e.axisY ∧ e'.angle = e.angle) ∧
      (t < 0 → e'.axisX = e.axisY ∧ e'.axisY = e.axisX ∧
        if k.b = 0 ∧ k.a = k.c then e'.angle = e.angle
        else ∃ n : ℤ, e'.angle = e.angle + Real.pi / 2 + n * Real.pi) := by
  obtain ⟨hk, rfl⟩ := Conic.ofEquation_eq_ok_iff.mp he
  refine ⟨hk.axisY_le_axisX_iff, ?_⟩
  intro t ht
  have hk' := hk.multiple ht
  refine ⟨(k.multiple t).ellipse name frame now, Conic.ofEquation_eq_ok_iff.mpr ⟨hk', rfl⟩,
    ?_, ?_, ?_, ?_⟩
  · exact Vector3.ext (Conic.centerX_multiple ht) (Conic.centerY_multiple ht) rfl
  · rw [hk'.contour_ellipse, hk.contour_ellipse, Conic.solutions_multiple ht]
  · intro hpos
    obtain ⟨hX, hY⟩ := Conic.axes_multiple_of_pos (k := k) hpos
    exact ⟨hX, hY, Conic.angle_multiple_of_pos hpos⟩
  · intro hneg
    obtain ⟨hX, hY⟩ := Conic.axes_multiple_of_neg (k := k) hneg
    refine ⟨hX, hY, ?_⟩
    split
    case isTrue hcircle =>
      have hcircle' : (k.multiple t).a = (k.multiple t).c := congrArg (t * ·) hcircle.2
      have hmixed : (k.multiple t).b = 0 := mul_eq_zero_of_right t hcircle.1
      exact (Conic.angle_of_circle hmixed hcircle').trans
        (Conic.angle_of_circle hcircle.1 hcircle.2).symm
    case isFalse hcircle =>
      exact Conic.angle_multiple_of_neg hneg (Conic.spread_eq_zero_iff.not.mpr hcircle)

/-- A tilted ellipse with a form of negative sign, and the equation with its signs changed. -/
theorem axes_follow_sign_of_form_tilted :
    let k : Conic := ⟨-5, 6, -5, -2, 14, -5⟩
    ∃ e e' : Ellipsoid ℝ,
      Ellipsoid.ofEquation "e" k.coefficients "world" ⟨0⟩ = .ok e ∧
      Ellipsoid.ofEquation "e" (k.coefficients.map (-1 * ·)) "world" ⟨0⟩ = .ok e' ∧
      e.axisX < e.axisY ∧ e'.axisX = e.axisY ∧ e'.axisY = e.axisX ∧
      e'.centerPosition = e.centerPosition ∧ e'.contour = e.contour ∧
      ∃ n : ℤ, e'.angle = e.angle + Real.pi / 2 + n * Real.pi := by
  intro k
  have hdiscriminant : k.discriminant < 0 := by norm_num [k, Conic.discriminant]
  have hk : k.Elliptic := by
    rw [Conic.elliptic_iff_trace hdiscriminant]
    norm_num [k, Conic.determinant, Conic.discriminant]
  have he : Ellipsoid.ofEquation "e" k.coefficients "world" ⟨0⟩ =
      .ok (k.ellipse "e" "world" ⟨0⟩) := Conic.ofEquation_eq_ok_iff.mpr ⟨hk, rfl⟩
  obtain ⟨hmajor, hmultiple⟩ := axes_follow_sign_of_form k "e" "world" ⟨0⟩ _ he
  obtain ⟨e', he', hcenter, hcontour, -, hneg⟩ := hmultiple (-1) (by norm_num)
  obtain ⟨hX, hY, hangle⟩ := hneg (by norm_num)
  have hminor : ¬(0 < k.a + k.c ∨ k.b = 0 ∧ k.a = k.c) := by norm_num [k]
  have hcircle : ¬(k.b = 0 ∧ k.a = k.c) := by norm_num [k]
  rw [if_neg hcircle] at hangle
  exact ⟨_, e', he, he', not_le.mp (hmajor.not.mpr hminor), hX, hY, hcenter, hcontour, hangle⟩

/-- Of the equation `-x² / 4 - y² + 1 = 0` the minor axis is named first, and of the equation
`x² / 4 + y² - 1 = 0` the major one. -/
theorem minor_axis_named_first :
    ∃ e e' : Ellipsoid ℝ,
      Ellipsoid.ofEquation "e" [-1 / 4, 0, -1, 0, 0, 1] "world" ⟨0⟩ = .ok e ∧
      Ellipsoid.ofEquation "e" ([-1 / 4, 0, -1, 0, 0, 1].map (-1 * ·)) "world" ⟨0⟩ = .ok e' ∧
      (e.axisX = 1 ∧ e.axisY = 2) ∧ (e'.axisX = 2 ∧ e'.axisY = 1) ∧
      ∀ n : ℤ, e'.angle ≠ e.angle + n * Real.pi := by
  let k : Conic := ⟨-1 / 4, 0, -1, 0, 0, 1⟩
  have hdiscriminant : k.discriminant = -1 := by norm_num [k, Conic.discriminant]
  have hdeterminant : k.determinant = -2 := by
    rw [Conic.determinant, hdiscriminant]
    norm_num [k]
  have hspread : k.spread = 3 / 4 := by
    have hsquare : (k.a - k.c) * (k.a - k.c) + k.b * k.b = 3 / 4 * (3 / 4) := by norm_num [k]
    rw [Conic.spread, hsquare, Real.sqrt_mul_self (by norm_num)]
  have hk : k.Elliptic := by
    rw [Conic.elliptic_iff_trace (by norm_num [hdiscriminant]), hdeterminant]
    norm_num [k]
  have hX : k.axisX = 1 := by
    have hradicand : k.determinant * (k.a + k.c + k.spread) = 1 := by
      rw [hdeterminant, hspread]
      norm_num [k]
    rw [Conic.axisX, hradicand, hdiscriminant, Real.sqrt_one, div_self (by norm_num)]
  have hY : k.axisY = 2 := by
    have hradicand : k.determinant * (k.a + k.c - k.spread) = 2 * 2 := by
      rw [hdeterminant, hspread]
      norm_num [k]
    rw [Conic.axisY, hradicand, hdiscriminant, Real.sqrt_mul_self (by norm_num)]
    norm_num
  have hswapped := Conic.axes_multiple_of_neg (k := k) (t := -1) (by norm_num)
  have hangle : k.angle = Real.pi / 2 := by
    rw [Conic.angle, if_neg (not_not.mpr rfl), if_pos (by norm_num [k])]
  have hangle' : (k.multiple (-1)).angle = 0 := by
    rw [Conic.angle, if_neg (by norm_num [k, Conic.multiple]),
      if_neg (by norm_num [k, Conic.multiple])]
  refine ⟨_, _, Conic.ofEquation_eq_ok_iff.mpr ⟨hk, rfl⟩,
    Conic.ofEquation_eq_ok_iff.mpr ⟨hk.multiple (t := -1) (by norm_num), rfl⟩, ⟨hX, hY⟩,
    ⟨hswapped.1.trans hY, hswapped.2.trans hX⟩, ?_⟩
  intro n hn
  have hturn : (0 : ℝ) = Real.pi / 2 + n * Real.pi := by
    rw [← hangle, ← hangle']
    exact hn
  have hinteger : (2 * n + 1 : ℝ) = 0 := by
    refine (mul_eq_zero.mp ?_).resolve_right Real.pi_ne_zero
    linear_combination -2 * hturn
  have hodd : 2 * n + 1 = 0 := by exact_mod_cast hinteger
  omega

end Kinematics
