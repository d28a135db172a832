import Kinematics.Proofs.Rotation.Angle
import Kinematics.Proofs.Rotation.Unit

/-!
# Multiples of rotations

The exponentials of the multiples of one vector are the turns about one axis, so that they multiply
as their factors add. The logarithm tells such a turn from all others as long as it stays within one
full turn, either way round, and is not too small.
-/

namespace Kinematics.Quaternion
open CartesianState (angle)
open Scalar (rotationEpsilon rotationEpsilon_pos)

section Axis
variable {axis : Vector3 ℝ}

theorem aboutAxis_mul_aboutAxis (haxis : axis.dot axis = 1) (θ φ : ℝ) :
    aboutAxis axis θ * aboutAxis axis φ = aboutAxis axis (θ + φ) := by
  have hdot (j k : ℝ) : (axis.scale j).dot (axis.scale k) = j * k := by
    have hunit : axis.x * axis.x + axis.y * axis.y + axis.z * axis.z = 1 := haxis
    simp only [Vector3.dot, Vector3.scale]
    linear_combination j * k * hunit
  have hcross (j k : ℝ) : (axis.scale j).cross (axis.scale k) = 0 := by
    ext <;> simp only [Vector3.cross, Vector3.scale, Vector3.zero_x, Vector3.zero_y,
      Vector3.zero_z] <;> ring
  simp only [aboutAxis, Scalar.two_eq, Scalar.cos_eq, Scalar.sin_eq, add_div, Real.cos_add,
    Real.sin_add]
  rw [ofParts_mul, hdot, hcross, add_zero]
  congr 1
  ext <;> simp only [Vector3.scale, Vector3.add_x, Vector3.add_y, Vector3.add_z] <;> ring

/-- To turn about the opposite axis is to turn the other way round. -/
theorem aboutAxis_neg (axis : Vector3 ℝ) (θ : ℝ) : aboutAxis (-axis) θ = aboutAxis axis (-θ) := by
  ext <;> simp [aboutAxis, ofParts, Vector3.scale, neg_div]

theorem conjugate_aboutAxis (axis : Vector3 ℝ) (θ : ℝ) :
    (aboutAxis axis θ).conjugate = aboutAxis axis (-θ) := by
  ext <;> simp [aboutAxis, ofParts, Vector3.scale, neg_div, conjugate]

/-- The angle of a turn by more than half a turn is what is missing to the full turn. -/
theorem angle_identity_aboutAxis (haxis : axis.dot axis = 1) {θ : ℝ} (hlong : Real.pi ≤ θ)
    (hturn : θ ≤ 2 * Real.pi) : angle identity (aboutAxis axis θ) = 2 * Real.pi - θ := by
  have harcsin : Real.arcsin (Real.sin (θ / 2)) = Real.pi - θ / 2 := by
    rw [← Real.sin_pi_sub]
    apply Real.arcsin_sin <;> linarith
  rw [angle_identity (isRotation_aboutAxis haxis θ),
    norm_vectorPart_aboutAxis haxis (Real.pi_nonneg.trans hlong) hturn, harcsin]
  ring

end Axis

section Rest

/-- Half of a full turn has no sine, which counts as no turn at all. -/
theorem ne_pi_of_le_sin {x : ℝ} (h : rotationEpsilon ≤ Real.sin x) : x ≠ Real.pi := by
  rintro rfl
  rw [Real.sin_pi] at h
  exact h.not_gt rotationEpsilon_pos

@[simp] theorem norm_vectorPart_identity : (identity : Quaternion ℝ).vectorPart.norm = 0 :=
  Vector3.norm_zero

theorem exp_zero (k : ℝ) : exp (0 : Vector3 ℝ) k = identity := by
  apply exp_of_lt
  rw [Vector3.norm_zero]
  exact rotationEpsilon_pos

theorem vectorPart_log_of_lt {q : Quaternion ℝ} (h : q.vectorPart.norm < rotationEpsilon) :
    q.log.vectorPart = 0 := by
  rw [log_of_lt h]
  rfl

theorem vectorPart_log_identity : (identity : Quaternion ℝ).log.vectorPart = 0 := by
  apply vectorPart_log_of_lt
  rw [norm_vectorPart_identity]
  exact rotationEpsilon_pos

end Rest

section Exponential
variable {v : Vector3 ℝ} {j k : ℝ}

/-- A multiple of a vector points along an axis, about which its exponentials turn. -/
theorem exists_exp (hv : rotationEpsilon ≤ v.norm) (j : ℝ) :
    ∃ axis : Vector3 ℝ, axis.dot axis = 1 ∧ v.scale j = axis.scale (|j| * v.norm) ∧
      ∀ k, exp v (j * k) = aboutAxis axis (2 * (|j| * v.norm * k)) := by
  obtain ⟨axis, haxis, hvector⟩ := v.exists_axis
  have hexp (k : ℝ) : exp v k = aboutAxis axis (2 * (v.norm * k)) := by
    have h := exp_scale haxis hv k
    rwa [← hvector] at h
  have hscale : v.scale j = axis.scale (j * v.norm) := by
    rw [mul_comm, ← Vector3.scale_scale, ← hvector]
  have hturn (k : ℝ) : 2 * (v.norm * (j * k)) = 2 * (j * v.norm * k) := by ring
  obtain h0 | h0 := le_total 0 j
  · rw [abs_of_nonneg h0]
    exact ⟨axis, haxis, hscale, fun k => by rw [hexp, hturn]⟩
  · rw [abs_of_nonpos h0]
    refine ⟨-axis, ?_, ?_, fun k => ?_⟩
    · rwa [Vector3.neg_dot_neg]
    · rw [Vector3.neg_scale, neg_mul, neg_neg, hscale]
    · rw [hexp, hturn, aboutAxis_neg, neg_mul, neg_mul, mul_neg, neg_neg]

/-- The exponentials of one vector are a group: turns about one axis add up, however often they go
round, and vectors that are too short do not turn at all. -/
theorem exp_mul_exp (v : Vector3 ℝ) (j k : ℝ) : exp v j * exp v k = exp v (j + k) := by
  obtain hsmall | hlarge := lt_or_ge v.norm rotationEpsilon
  · simp only [exp_of_lt hsmall, Quaternion.mul_identity]
  · obtain ⟨axis, haxis, -, hexp⟩ := exists_exp hlarge 1
    simp only [one_mul] at hexp
    rw [hexp, hexp, hexp, aboutAxis_mul_aboutAxis haxis, ← mul_add, ← mul_add]

theorem exp_zero_right (v : Vector3 ℝ) : exp v 0 = identity := by
  obtain hsmall | hlarge := lt_or_ge v.norm rotationEpsilon
  · exact exp_of_lt hsmall 0
  · obtain ⟨axis, -, -, hexp⟩ := exists_exp hlarge 0
    have hturn := hexp 0
    rwa [mul_zero, mul_zero, mul_zero, aboutAxis_zero] at hturn

/-- The opposite factor turns back. -/
theorem exp_neg (v : Vector3 ℝ) (k : ℝ) : exp v (-k) = (exp v k).conjugate := by
  obtain hsmall | hlarge := lt_or_ge v.norm rotationEpsilon
  · simp only [exp_of_lt hsmall, conjugate_identity]
  · obtain ⟨axis, haxis, -, hexp⟩ := exists_exp hlarge 1
    simp only [one_mul] at hexp
    rw [hexp, hexp, conjugate_aboutAxis, mul_neg, mul_neg]

theorem exp_of_scale (hv : rotationEpsilon ≤ v.norm) (hj : rotationEpsilon ≤ |j| * v.norm)
    (k : ℝ) : exp (v.scale j) k = exp v (j * k) := by
  obtain ⟨axis, haxis, hscale, hexp⟩ := exists_exp hv j
  rw [hscale, exp_scale haxis hj, hexp]

theorem norm_vectorPart_exp (hv : rotationEpsilon ≤ v.norm) (hturn : |k| * v.norm ≤ Real.pi) :
    (exp v k).vectorPart.norm = Real.sin (|k| * v.norm) := by
  obtain ⟨axis, haxis, -, hexp⟩ := exists_exp hv k
  have hk : exp v k = aboutAxis axis (2 * (|k| * v.norm)) := by simpa using hexp 1
  have hangle : 0 ≤ |k| * v.norm := mul_nonneg (abs_nonneg k) v.norm_nonneg
  rw [hk, norm_vectorPart_aboutAxis haxis, mul_div_cancel_left₀ _ two_ne_zero]
  · linarith
  · linarith

theorem norm_log_le_pi (q : Quaternion ℝ) : q.log.vectorPart.norm ≤ Real.pi := by
  obtain hsmall | hlarge := lt_or_ge q.vectorPart.norm rotationEpsilon
  · rw [vectorPart_log_of_lt hsmall, Vector3.norm_zero]
    exact Real.pi_nonneg
  · have hpos := rotationEpsilon_pos.trans_le hlarge
    rw [log, if_neg hlarge.not_gt]
    change (q.vectorPart.scale (Scalar.atan2 q.vectorPart.norm q.w / q.vectorPart.norm)).norm ≤ _
    rw [Vector3.norm_scale, abs_div, abs_of_pos hpos, div_mul_cancel₀ _ hpos.ne']
    exact Complex.abs_arg_le_pi _

/-- The logarithm leads back from the exponential within a full turn. -/
theorem log_exp (hv : rotationEpsilon ≤ v.norm) (hturn : |k| * v.norm ≤ Real.pi)
    (hlarge : rotationEpsilon ≤ Real.sin (|k| * v.norm)) :
    (exp v k).log.vectorPart = v.scale k := by
  obtain ⟨axis, haxis, hscale, hexp⟩ := exists_exp hv k
  have hk : exp v k = aboutAxis axis (2 * (|k| * v.norm)) := by simpa using hexp 1
  have hangle : 0 ≤ |k| * v.norm := mul_nonneg (abs_nonneg k) v.norm_nonneg
  have hhalf : 2 * (|k| * v.norm) / 2 = |k| * v.norm := mul_div_cancel_left₀ _ two_ne_zero
  rw [hk, log_aboutAxis haxis, hhalf, hscale]
  · rfl
  · linarith
  · linarith
  · rwa [hhalf]

/-- The logarithm leads back from the exponential exactly if the turn is less than a full one and is
not taken for none. -/
theorem log_exp_iff (hv : rotationEpsilon ≤ v.norm) (hk : k ≠ 0) :
    (exp v k).log.vectorPart = v.scale k ↔
      |k| * v.norm < Real.pi ∧ rotationEpsilon ≤ Real.sin (|k| * v.norm) := by
  constructor
  · intro h
    have hpos : 0 < |k| * v.norm := mul_pos (abs_pos.mpr hk) (rotationEpsilon_pos.trans_le hv)
    have hnorm : (exp v k).log.vectorPart.norm = |k| * v.norm := by
      rw [h, Vector3.norm_scale]
    have hle : |k| * v.norm ≤ Real.pi := hnorm ▸ norm_log_le_pi _
    have hlarge : rotationEpsilon ≤ Real.sin (|k| * v.norm) := by
      rw [← norm_vectorPart_exp hv hle]
      by_contra hsmall
      rw [vectorPart_log_of_lt (not_le.mp hsmall), Vector3.norm_zero] at hnorm
      exact hpos.ne hnorm
    exact ⟨hle.lt_of_ne (ne_pi_of_le_sin hlarge), hlarge⟩
  · rintro ⟨hturn, hlarge⟩
    exact log_exp hv hturn.le hlarge

end Exponential

section Logarithm
variable {q : Quaternion ℝ}

/-- The half angle that is read off a rotation. -/
theorem atan2_eq_arccos (hq : q.IsRotation) :
    Scalar.atan2 q.vectorPart.norm q.w = Real.arccos q.w := by
  obtain ⟨axis, θ, haxis, h0, hturn, rfl⟩ := exists_aboutAxis hq
  have hhalf : θ / 2 ∈ Set.Ioc (-Real.pi) Real.pi := by
    constructor <;> linarith [Real.pi_pos]
  rw [norm_vectorPart_aboutAxis haxis h0 hturn, w_aboutAxis, Scalar.atan2_sin_cos hhalf,
    Real.arccos_cos] <;> linarith

/-- The logarithm of a rotation that is not too small, by the half of its angle. -/
theorem exists_log (hq : q.IsRotation) (hlarge : rotationEpsilon ≤ q.vectorPart.norm) :
    ∃ axis : Vector3 ℝ, axis.dot axis = 1 ∧ q = aboutAxis axis (2 * Real.arccos q.w) ∧
      q.log.vectorPart = axis.scale (Real.arccos q.w) ∧ rotationEpsilon ≤ Real.arccos q.w ∧
      Real.arccos q.w < Real.pi := by
  obtain ⟨axis, θ, haxis, h0, hturn, rfl⟩ := exists_aboutAxis hq
  rw [norm_vectorPart_aboutAxis haxis h0 hturn] at hlarge
  have hhalf : Real.arccos (aboutAxis axis θ).w = θ / 2 := by
    rw [w_aboutAxis]
    apply Real.arccos_cos <;> linarith
  rw [hhalf, mul_div_cancel₀ θ two_ne_zero, log_aboutAxis haxis h0 hturn hlarge]
  refine ⟨axis, haxis, rfl, rfl, ?_, ?_⟩
  · exact hlarge.trans (Real.sin_le (by linarith))
  · apply lt_of_le_of_ne _ (ne_pi_of_le_sin hlarge)
    linarith

theorem norm_log (hq : q.IsRotation) (hlarge : rotationEpsilon ≤ q.vectorPart.norm) :
    q.log.vectorPart.norm = Real.arccos q.w := by
  obtain ⟨axis, haxis, -, hlog, -, -⟩ := exists_log hq hlarge
  rw [hlog, Vector3.norm_scale_axis haxis (Real.arccos_nonneg _)]

theorem rotationEpsilon_le_norm_log (hq : q.IsRotation)
    (hlarge : rotationEpsilon ≤ q.vectorPart.norm) : rotationEpsilon ≤ q.log.vectorPart.norm := by
  obtain ⟨-, -, -, -, hhalf, -⟩ := exists_log hq hlarge
  rwa [norm_log hq hlarge]

theorem exp_log (hq : q.IsRotation) (hlarge : rotationEpsilon ≤ q.vectorPart.norm) :
    exp q.log.vectorPart 1 = q := by
  obtain ⟨axis, haxis, hturn, hlog, hhalf, -⟩ := exists_log hq hlarge
  rw [hlog, exp_scale haxis hhalf, mul_one, ← hturn]

theorem exp_log_neg (hq : q.IsRotation) (hlarge : rotationEpsilon ≤ q.vectorPart.norm) :
    exp q.log.vectorPart (-1) = q.conjugate := by
  rw [exp_neg, exp_log hq hlarge]

/-- A multiple that stays within a full turn keeps what is to be multiplied further. -/
theorem exp_log_exp (hq : q.IsRotation) (hlarge : rotationEpsilon ≤ q.vectorPart.norm) {j : ℝ}
    (hturn : |j| * Real.arccos q.w ≤ Real.pi)
    (hsin : rotationEpsilon ≤ Real.sin (|j| * Real.arccos q.w)) (k : ℝ) :
    exp (exp q.log.vectorPart j).log.vectorPart k = exp q.log.vectorPart (j * k) := by
  have hlog := rotationEpsilon_le_norm_log hq hlarge
  have hangle : 0 ≤ |j| * Real.arccos q.w := mul_nonneg (abs_nonneg j) (Real.arccos_nonneg _)
  have hlong := hsin.trans (Real.sin_le hangle)
  rw [← norm_log hq hlarge] at hturn hsin hlong
  rw [log_exp hlog hturn hsin, exp_of_scale hlog hlong]

section Restored
variable {r : Quaternion ℝ} {k : ℝ}

theorem rotationEpsilon_le_of_exp_log (hlarge : rotationEpsilon ≤ q.vectorPart.norm)
    (h : exp r.log.vectorPart k = q) : rotationEpsilon ≤ r.vectorPart.norm := by
  by_contra hsmall
  rw [vectorPart_log_of_lt (not_le.mp hsmall), exp_zero] at h
  rw [← h, norm_vectorPart_identity] at hlarge
  exact hlarge.not_gt rotationEpsilon_pos

/-- A rotation is read as less than a full turn, and of that a part is taken. -/
theorem mul_arccos_lt_of_exp_log (hr : r.IsRotation)
    (hlarge : rotationEpsilon ≤ r.vectorPart.norm) (hk : k ≠ 0)
    (h : exp r.log.vectorPart (1 / k) = q) : |k| * Real.arccos q.w < Real.pi := by
  obtain ⟨axis, haxis, -, hlog, hhalf, hpi⟩ := exists_log hr hlarge
  have hpos : 0 < |k| := abs_pos.mpr hk
  have hw : Real.cos (Real.arccos r.w / |k|) = q.w := by
    rw [← h, hlog, exp_scale haxis hhalf, w_aboutAxis, mul_div_cancel_left₀ _ two_ne_zero,
      mul_one_div, ← Real.cos_abs (_ / k), abs_div, abs_of_nonneg (Real.arccos_nonneg _)]
  by_contra hfar
  have hless : Real.arccos r.w / |k| < Real.arccos q.w := by
    rw [div_lt_iff₀ hpos, mul_comm]
    exact hpi.trans_le (not_lt.mp hfar)
  have hread := Real.arccos_cos (div_nonneg (Real.arccos_nonneg r.w) hpos.le)
    (hless.le.trans (Real.arccos_le_pi q.w))
  rw [hw] at hread
  exact hless.ne' hread

/-- A rotation is restored from its multiple exactly if that is less than a full turn and is not
taken for none. -/
theorem exp_log_exp_inv_iff (hq : q.IsRotation) (hlarge : rotationEpsilon ≤ q.vectorPart.norm)
    (hk : k ≠ 0) :
    exp (exp q.log.vectorPart k).log.vectorPart (1 / k) = q ↔
      |k| * Real.arccos q.w < Real.pi ∧ rotationEpsilon ≤ Real.sin (|k| * Real.arccos q.w) := by
  constructor
  · intro h
    have hvisible := rotationEpsilon_le_of_exp_log hlarge h
    have hturn := mul_arccos_lt_of_exp_log (isRotation_exp _ k) hvisible hk h
    rw [← norm_log hq hlarge] at hturn ⊢
    rw [norm_vectorPart_exp (rotationEpsilon_le_norm_log hq hlarge) hturn.le] at hvisible
    exact ⟨hturn, hvisible⟩
  · rintro ⟨hturn, hsin⟩
    rw [exp_log_exp hq hlarge hturn.le hsin, mul_one_div_cancel hk, exp_log hq hlarge]

end Restored

/-- The logarithm and the rotation vector, which is twice as long, have the same exponentials,
though they are held against the same threshold. -/
theorem exp_scale_two_log (hq : q.IsRotation) (k : ℝ) :
    exp (q.log.vectorPart.scale 2) (k / 2) = exp q.log.vectorPart k := by
  obtain hsmall | hlarge := lt_or_ge q.vectorPart.norm rotationEpsilon
  · rw [vectorPart_log_of_lt hsmall, Vector3.zero_scale, exp_zero, exp_zero]
  · have hlog := rotationEpsilon_le_norm_log hq hlarge
    have htwice : rotationEpsilon ≤ |2| * q.log.vectorPart.norm := by
      rw [abs_two]
      linarith [q.log.vectorPart.norm_nonneg]
    rw [exp_of_scale hlog htwice, mul_div_cancel₀ k two_ne_zero]

end Logarithm
end Kinematics.Quaternion
