import Kinematics.Proofs.Scalar

/-!
# Ellipses as conics

The principal axes of a conic `a x² + b xy + c y² + d x + e y + f = 0`. About its center and along
the eigenvectors of its quadratic form, the equation of an ellipse has no mixed and no linear terms;
the signs of the form and of the center value then decide whether it has solutions.
-/

namespace Kinematics

/-- The coefficients of the equation `a x² + b xy + c y² + d x + e y + f = 0`. -/
structure Conic where
  a : ℝ
  b : ℝ
  c : ℝ
  d : ℝ
  e : ℝ
  f : ℝ

/-- Every point of the unit circle has an angle. -/
theorem exists_angle {p q : ℝ} (h : p ^ 2 + q ^ 2 = 1) :
    ∃ s, Real.cos s = p ∧ Real.sin s = q := by
  let point : ℂ := ⟨p, q⟩
  have hnorm : ‖point‖ = 1 := by
    have hsq : ‖point‖ ^ 2 = 1 := by
      rw [Complex.sq_norm, Complex.normSq_mk]
      linear_combination h
    exact (pow_eq_one_iff_of_nonneg (norm_nonneg point) two_ne_zero).mp hsq
  have hpoint : point ≠ 0 := norm_ne_zero_iff.mp (hnorm ▸ one_ne_zero)
  refine ⟨point.arg, ?_, ?_⟩
  · rw [Complex.cos_arg hpoint, hnorm, div_one]
  · rw [Complex.sin_arg, hnorm, div_one]

namespace Conic
variable (k : Conic)

def coefficients : List ℝ := [k.a, k.b, k.c, k.d, k.e, k.f]

def form (u w : ℝ) : ℝ := k.a * u ^ 2 + k.b * u * w + k.c * w ^ 2

def value (x y : ℝ) : ℝ := k.form x y + k.d * x + k.e * y + k.f

def discriminant : ℝ := k.b * k.b - 2 * 2 * k.a * k.c

def determinant : ℝ :=
  2 * (k.a * k.e * k.e + k.c * k.d * k.d - k.b * k.d * k.e + k.discriminant * k.f)

/-- The distance of the two eigenvalues of the form. -/
noncomputable def spread : ℝ := Real.sqrt ((k.a - k.c) * (k.a - k.c) + k.b * k.b)

noncomputable def lower : ℝ := (k.a + k.c - k.spread) / 2

noncomputable def upper : ℝ := (k.a + k.c + k.spread) / 2

noncomputable def centerX : ℝ := (2 * k.c * k.d - k.b * k.e) / k.discriminant

noncomputable def centerY : ℝ := (2 * k.a * k.e - k.b * k.d) / k.discriminant

/-- The conics with a form of one sign and solutions about their center. -/
structure Elliptic : Prop where
  discriminant_neg : k.discriminant < 0
  upper_pos : 0 < k.determinant * (k.a + k.c + k.spread)
  lower_pos : 0 < k.determinant * (k.a + k.c - k.spread)

section Eigenvalues

theorem spread_radicand_nonneg : 0 ≤ (k.a - k.c) * (k.a - k.c) + k.b * k.b :=
  add_nonneg (mul_self_nonneg _) (mul_self_nonneg _)

theorem spread_sq : k.spread ^ 2 = (k.a - k.c) * (k.a - k.c) + k.b * k.b :=
  Real.sq_sqrt k.spread_radicand_nonneg

theorem lower_mul_upper : 4 * (k.lower * k.upper) = -k.discriminant := by
  have h := k.spread_sq
  simp only [lower, upper, discriminant]
  linear_combination -h

/-- The angles of the unit eigenvectors that belong to the lower eigenvalue. -/
structure Principal (θ : ℝ) : Prop where
  first : k.a * Real.cos θ + k.b / 2 * Real.sin θ = k.lower * Real.cos θ
  second : k.b / 2 * Real.cos θ + k.c * Real.sin θ = k.lower * Real.sin θ

variable {k}

/-- The form has no mixed term along an eigenvector and across it. -/
theorem Principal.form_turn {θ : ℝ} (h : k.Principal θ) (ξ η : ℝ) :
    k.form (Real.cos θ * ξ - Real.sin θ * η) (Real.sin θ * ξ + Real.cos θ * η) =
      k.lower * ξ ^ 2 + k.upper * η ^ 2 := by
  have hcircle := Real.cos_sq_add_sin_sq θ
  have halong : k.form (Real.cos θ) (Real.sin θ) = k.lower := by
    unfold form
    linear_combination Real.cos θ * h.first + Real.sin θ * h.second + k.lower * hcircle
  have hmixed : k.b * (Real.cos θ ^ 2 - Real.sin θ ^ 2) +
      2 * (k.c - k.a) * (Real.cos θ * Real.sin θ) = 0 := by
    linear_combination 2 * Real.cos θ * h.second - 2 * Real.sin θ * h.first
  have hacross : k.form (-Real.sin θ) (Real.cos θ) = k.upper := by
    have htrace : k.lower + k.upper = k.a + k.c := by
      unfold lower upper
      ring
    unfold form at halong ⊢
    linear_combination (k.a + k.c) * hcircle - halong - htrace
  unfold form at halong hacross ⊢
  linear_combination ξ ^ 2 * halong + η ^ 2 * hacross + ξ * η * hmixed

/-- With a mixed term the eigenvector is `(b, c - a - spread)`, in any quadrant. -/
theorem principal_of_mixed (hb : k.b ≠ 0) :
    k.Principal (Complex.arg ⟨k.b, k.c - k.a - k.spread⟩) := by
  have hspread := k.spread_sq
  have hvector : (⟨k.b, k.c - k.a - k.spread⟩ : ℂ) ≠ 0 := fun h => hb (congrArg Complex.re h)
  constructor
  · rw [Complex.cos_arg hvector, Complex.sin_arg, lower]
    ring
  · rw [Complex.cos_arg hvector, Complex.sin_arg, lower]
    field_simp
    linear_combination -hspread

/-- Without a mixed term the axes of the form are those of the plane, and the lower eigenvalue is
the lesser of the two square coefficients. -/
theorem principal_of_unmixed (hb : k.b = 0) :
    k.Principal (if k.c < k.a then Real.pi / 2 else 0) := by
  have hspread : k.spread = |k.a - k.c| := by
    rw [spread, hb, mul_zero, add_zero, Real.sqrt_mul_self_eq_abs]
  split
  case isTrue h =>
    rw [abs_of_pos (sub_pos.mpr h)] at hspread
    constructor
    · simp [hb]
    · simp only [Real.cos_pi_div_two, Real.sin_pi_div_two, lower, hspread]
      ring
  case isFalse h =>
    rw [abs_of_nonpos (sub_nonpos.mpr (not_lt.mp h))] at hspread
    constructor
    · simp only [Real.cos_zero, Real.sin_zero, lower, hspread]
      ring
    · simp [hb]

/-- The angle of the axis along the lower eigenvectors. -/
noncomputable def angle (k : Conic) : ℝ :=
  if k.b ≠ 0 then Complex.arg ⟨k.b, k.c - k.a - k.spread⟩
  else if k.c < k.a then Real.pi / 2
  else 0

theorem principal_angle (k : Conic) : k.Principal k.angle := by
  unfold angle
  split
  case isTrue h => exact principal_of_mixed h
  case isFalse h => exact principal_of_unmixed (not_not.mp h)

/-- A form of one sign has the sign of its trace at every vector but zero. -/
theorem trace_mul_form_pos (h : k.discriminant < 0) {u w : ℝ} (hne : u ≠ 0 ∨ w ≠ 0) :
    0 < (k.a + k.c) * k.form u w := by
  have hsquares : 0 < u ^ 2 + w ^ 2 := by
    rcases hne with hu | hw
    · exact add_pos_of_pos_of_nonneg (sq_pos_iff.mpr hu) (sq_nonneg w)
    · exact add_pos_of_nonneg_of_pos (sq_nonneg u) (sq_pos_iff.mpr hw)
  have hform : 4 * ((k.a + k.c) * k.form u w) = (2 * k.a * u + k.b * w) ^ 2 +
      (2 * k.c * w + k.b * u) ^ 2 + -k.discriminant * (u ^ 2 + w ^ 2) := by
    unfold form discriminant
    ring
  have hpos := mul_pos (neg_pos.mpr h) hsquares
  have hfirst := sq_nonneg (2 * k.a * u + k.b * w)
  have hsecond := sq_nonneg (2 * k.c * w + k.b * u)
  linarith only [hform, hpos, hfirst, hsecond]

end Eigenvalues

section Center
variable {k}

/-- The value of the equation at the center. -/
noncomputable def centerValue (k : Conic) : ℝ := k.determinant / (2 * k.discriminant)

/-- About its center the equation has no linear terms. -/
theorem value_center_add (h : k.discriminant ≠ 0) (u w : ℝ) :
    k.value (k.centerX + u) (k.centerY + w) = k.form u w + k.centerValue := by
  have hx : k.centerX * k.discriminant = 2 * k.c * k.d - k.b * k.e := div_mul_cancel₀ _ h
  have hy : k.centerY * k.discriminant = 2 * k.a * k.e - k.b * k.d := div_mul_cancel₀ _ h
  have hlinearX : 2 * k.a * k.centerX + k.b * k.centerY + k.d = 0 := by
    refine (mul_eq_zero.mp ?_).resolve_right h
    unfold discriminant at hx hy ⊢
    linear_combination 2 * k.a * hx + k.b * hy
  have hlinearY : k.b * k.centerX + 2 * k.c * k.centerY + k.e = 0 := by
    refine (mul_eq_zero.mp ?_).resolve_right h
    unfold discriminant at hx hy ⊢
    linear_combination k.b * hx + 2 * k.c * hy
  have hvalue : k.centerValue = k.f + (k.d * k.centerX + k.e * k.centerY) / 2 := by
    rw [centerValue, div_eq_iff (mul_ne_zero two_ne_zero h), determinant]
    linear_combination -k.d * hx - k.e * hy
  unfold value form
  linear_combination (u + k.centerX / 2) * hlinearX + (w + k.centerY / 2) * hlinearY - hvalue

end Center

section Axes
variable {k}

/-- The half axis along the eigenvectors of the lower eigenvalue. -/
noncomputable def axisX (k : Conic) : ℝ :=
  -Real.sqrt (k.determinant * (k.a + k.c + k.spread)) / k.discriminant

/-- The half axis across the eigenvectors of the lower eigenvalue. -/
noncomputable def axisY (k : Conic) : ℝ :=
  -Real.sqrt (k.determinant * (k.a + k.c - k.spread)) / k.discriminant

/-- A negative radicand has the root zero, so that the half axes are positive for ellipses only. -/
theorem elliptic_iff (h : k.discriminant < 0) : k.Elliptic ↔ 0 < k.axisX ∧ 0 < k.axisY := by
  have hroot (x : ℝ) : 0 < -Real.sqrt x / k.discriminant ↔ 0 < x := by
    rw [neg_div, ← div_neg, div_pos_iff_of_pos_right (neg_pos.mpr h), Real.sqrt_pos]
  unfold axisX axisY
  rw [hroot, hroot]
  exact ⟨fun hk => ⟨hk.upper_pos, hk.lower_pos⟩, fun ⟨hupper, hlower⟩ => ⟨h, hupper, hlower⟩⟩

/-- The two eigenvalues have one sign, that of their sum. -/
theorem elliptic_iff_trace (h : k.discriminant < 0) :
    k.Elliptic ↔ 0 < k.determinant * (k.a + k.c) := by
  have hsum : k.determinant * (k.a + k.c + k.spread) + k.determinant * (k.a + k.c - k.spread) =
      2 * (k.determinant * (k.a + k.c)) := by ring
  constructor
  · intro hk
    have hpos := add_pos hk.upper_pos hk.lower_pos
    rw [hsum] at hpos
    exact (mul_pos_iff_of_pos_left two_pos).mp hpos
  · intro htrace
    have hdeterminant : 0 < k.determinant ^ 2 :=
      sq_pos_iff.mpr (left_ne_zero_of_mul htrace.ne')
    have hproduct : k.determinant * (k.a + k.c + k.spread) *
        (k.determinant * (k.a + k.c - k.spread)) = k.determinant ^ 2 * -k.discriminant := by
      have hspread := k.spread_sq
      unfold discriminant
      linear_combination -k.determinant ^ 2 * hspread
    have hpos := mul_pos hdeterminant (neg_pos.mpr h)
    rw [← hproduct] at hpos
    rcases pos_and_pos_or_neg_and_neg_of_mul_pos hpos with hboth | hboth
    · exact ⟨h, hboth.1, hboth.2⟩
    · have hneg := add_neg hboth.1 hboth.2
      rw [hsum] at hneg
      linarith only [hneg, htrace]

namespace Elliptic

private theorem mul_axis_sq (hk : k.Elliptic) {along across : ℝ}
    (hproduct : 4 * (along * across) = -k.discriminant) (hpos : 0 < k.determinant * (2 * across)) :
    along * (-Real.sqrt (k.determinant * (2 * across)) / k.discriminant) ^ 2 = -k.centerValue := by
  have hne := hk.discriminant_neg.ne
  rw [centerValue, div_pow, neg_sq, Real.sq_sqrt hpos.le]
  field_simp
  -- the radicand holds the other eigenvalue, so that only their product is left
  linear_combination k.determinant * hproduct

theorem lower_mul_axisX_sq (hk : k.Elliptic) : k.lower * k.axisX ^ 2 = -k.centerValue := by
  have hupper : k.a + k.c + k.spread = 2 * k.upper := (mul_div_cancel₀ _ two_ne_zero).symm
  have hpos := hk.upper_pos
  rw [hupper] at hpos
  rw [axisX, hupper]
  exact mul_axis_sq hk k.lower_mul_upper hpos

theorem upper_mul_axisY_sq (hk : k.Elliptic) : k.upper * k.axisY ^ 2 = -k.centerValue := by
  have hlower : k.a + k.c - k.spread = 2 * k.lower := (mul_div_cancel₀ _ two_ne_zero).symm
  have hpos := hk.lower_pos
  rw [hlower] at hpos
  rw [axisY, hlower]
  exact mul_axis_sq hk (mul_comm k.upper k.lower ▸ k.lower_mul_upper) hpos

theorem centerValue_ne_zero (hk : k.Elliptic) : k.centerValue ≠ 0 :=
  div_ne_zero (left_ne_zero_of_mul hk.upper_pos.ne')
    (mul_ne_zero two_ne_zero hk.discriminant_neg.ne)

/-- In the coordinates of its principal axes an ellipse has the standard equation. -/
theorem value_eq_zero_iff (hk : k.Elliptic) {θ : ℝ} (hθ : k.Principal θ) (ξ η : ℝ) :
    k.value (k.centerX + (Real.cos θ * ξ - Real.sin θ * η))
        (k.centerY + (Real.sin θ * ξ + Real.cos θ * η)) = 0 ↔
      (ξ / k.axisX) ^ 2 + (η / k.axisY) ^ 2 = 1 := by
  obtain ⟨hX, hY⟩ := (elliptic_iff hk.discriminant_neg).mp hk
  have hlower : k.lower = -k.centerValue / k.axisX ^ 2 :=
    eq_div_of_mul_eq (pow_ne_zero 2 hX.ne') hk.lower_mul_axisX_sq
  have hupper : k.upper = -k.centerValue / k.axisY ^ 2 :=
    eq_div_of_mul_eq (pow_ne_zero 2 hY.ne') hk.upper_mul_axisY_sq
  have hvalue : k.value (k.centerX + (Real.cos θ * ξ - Real.sin θ * η))
      (k.centerY + (Real.sin θ * ξ + Real.cos θ * η)) =
        -k.centerValue * ((ξ / k.axisX) ^ 2 + (η / k.axisY) ^ 2 - 1) := by
    rw [value_center_add hk.discriminant_neg.ne, hθ.form_turn, hlower, hupper]
    ring
  rw [hvalue, mul_eq_zero, neg_eq_zero, or_iff_right hk.centerValue_ne_zero, sub_eq_zero]

end Elliptic
end Axes
end Conic
end Kinematics
