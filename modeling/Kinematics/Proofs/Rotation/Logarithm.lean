import Kinematics.Proofs.Rotation
import Kinematics.Quaternion.Exponential

/-!
# Rotations as turns about an axis

A unit quaternion is the turn about some axis by an angle between none and a full turn. Its
logarithm is read off this form, and the exponential of a vector is brought into it, both but for
vectors that are too short.
-/

namespace Kinematics.Quaternion
open Scalar (rotationEpsilon rotationEpsilon_pos)

theorem normSq_eq (q : Quaternion ℝ) : q.normSq = q.w * q.w + q.vectorPart.dot q.vectorPart := by
  simp only [normSq, dot, vectorPart, Vector3.dot]
  ring

namespace IsRotation
variable {q : Quaternion ℝ}

/-- The scalar part and the length of the vector part lie on the unit circle. -/
theorem circle (hq : q.IsRotation) :
    q.w * q.w + q.vectorPart.norm * q.vectorPart.norm = 1 := by
  rw [Vector3.norm_mul_self, ← normSq_eq]
  exact hq

theorem norm_vectorPart_le_one (hq : q.IsRotation) : q.vectorPart.norm ≤ 1 := by
  have hsq : q.vectorPart.norm * q.vectorPart.norm ≤ 1 := by
    rw [← hq.circle]
    exact le_add_of_nonneg_left (mul_self_nonneg q.w)
  exact (abs_le_one_iff_mul_self_le_one.mpr hsq).trans' (le_abs_self _)

end IsRotation

section Axis
variable {q : Quaternion ℝ} {axis : Vector3 ℝ} {angle : ℝ}

theorem w_aboutAxis (axis : Vector3 ℝ) (angle : ℝ) :
    (aboutAxis axis angle).w = Real.cos (angle / 2) := by
  simp [aboutAxis, ofParts]

theorem vectorPart_aboutAxis (axis : Vector3 ℝ) (angle : ℝ) :
    (aboutAxis axis angle).vectorPart = axis.scale (Real.sin (angle / 2)) := by
  simp [aboutAxis, ofParts, vectorPart]

/-- A turn by no angle at all leads nowhere, about whatever axis. -/
@[simp] theorem aboutAxis_zero (axis : Vector3 ℝ) : aboutAxis axis 0 = identity := by
  ext <;> simp [aboutAxis, ofParts, Vector3.scale, identity]

theorem norm_vectorPart_aboutAxis (haxis : axis.dot axis = 1) (h0 : 0 ≤ angle)
    (hturn : angle ≤ 2 * Real.pi) :
    (aboutAxis axis angle).vectorPart.norm = Real.sin (angle / 2) := by
  have hsin : 0 ≤ Real.sin (angle / 2) := by
    apply Real.sin_nonneg_of_nonneg_of_le_pi <;> linarith
  rw [vectorPart_aboutAxis, Vector3.norm_scale_axis haxis hsin]

/-- The other quaternion of the rotation makes up for the full turn, the other way round. -/
theorem neg_aboutAxis (axis : Vector3 ℝ) (angle : ℝ) :
    -aboutAxis axis angle = aboutAxis (-axis) (2 * Real.pi - angle) := by
  have hhalf : (2 * Real.pi - angle) / 2 = Real.pi - angle / 2 := by ring
  ext <;> simp [aboutAxis, ofParts, Vector3.scale, hhalf, Real.cos_pi_sub, Real.sin_pi_sub]

theorem exists_aboutAxis (hq : q.IsRotation) :
    ∃ axis angle, axis.dot axis = 1 ∧ 0 ≤ angle ∧ angle ≤ 2 * Real.pi ∧
      q = aboutAxis axis angle := by
  obtain ⟨axis, haxis, hvector⟩ := q.vectorPart.exists_axis
  have hcircle := hq.circle
  have hnonneg := q.vectorPart.norm_nonneg
  have hcos : Real.cos (Real.arccos q.w) = q.w := by
    apply Real.cos_arccos <;> nlinarith
  have hsin : Real.sin (Real.arccos q.w) = q.vectorPart.norm := by
    rw [Real.sin_arccos, ← Real.sqrt_mul_self hnonneg]
    congr 1
    linear_combination -hcircle
  refine ⟨axis, 2 * Real.arccos q.w, haxis, ?_, ?_, ?_⟩
  · linarith [Real.arccos_nonneg q.w]
  · linarith [Real.arccos_le_pi q.w]
  · have hhalf : 2 * Real.arccos q.w / 2 = Real.arccos q.w := by ring
    rw [aboutAxis, Scalar.two_eq, hhalf, Scalar.cos_eq, Scalar.sin_eq, hcos, hsin, ← hvector]
    rfl

end Axis

section Logarithm
variable {q : Quaternion ℝ} {axis : Vector3 ℝ} {angle : ℝ}

theorem log_of_lt (h : q.vectorPart.norm < rotationEpsilon) : q.log = ⟨0, 0, 0, 0⟩ := by
  rw [log, if_pos h]

theorem log_aboutAxis (haxis : axis.dot axis = 1) (h0 : 0 ≤ angle) (hturn : angle ≤ 2 * Real.pi)
    (hlarge : rotationEpsilon ≤ Real.sin (angle / 2)) :
    (aboutAxis axis angle).log = ofParts 0 (axis.scale (angle / 2)) := by
  have hnorm := norm_vectorPart_aboutAxis haxis h0 hturn
  have hsin : Real.sin (angle / 2) ≠ 0 := (rotationEpsilon_pos.trans_le hlarge).ne'
  have hhalf : angle / 2 ∈ Set.Ioc (-Real.pi) Real.pi := by
    constructor <;> linarith [Real.pi_pos]
  have hnot : ¬(aboutAxis axis angle).vectorPart.norm < rotationEpsilon := by
    rw [hnorm]
    exact not_lt.mpr hlarge
  rw [log, if_neg hnot, hnorm, w_aboutAxis, Scalar.atan2_sin_cos hhalf, vectorPart_aboutAxis,
    Vector3.scale_scale, mul_div_cancel₀ _ hsin]

/-- The half angle is read in `[0, π]`, so that the logarithm points the way of the quaternion. -/
theorem dot_log_nonneg (q : Quaternion ℝ) : 0 ≤ q.dot q.log := by
  obtain hsmall | hlarge := lt_or_ge q.vectorPart.norm rotationEpsilon
  · simp [log_of_lt hsmall, dot]
  · have hangle : 0 ≤ Scalar.atan2 q.vectorPart.norm q.w :=
      Complex.arg_nonneg_iff.mpr q.vectorPart.norm_nonneg
    have hdot (k : ℝ) :
        q.dot (ofParts 0 (q.vectorPart.scale k)) = q.vectorPart.dot q.vectorPart * k := by
      simp only [dot, ofParts, vectorPart, Vector3.scale, Vector3.dot]
      ring
    rw [log, if_neg hlarge.not_gt, hdot]
    exact mul_nonneg q.vectorPart.dot_self_nonneg (div_nonneg hangle q.vectorPart.norm_nonneg)

end Logarithm

section Exponential
variable {v axis : Vector3 ℝ} {r : ℝ}

theorem exp_of_lt (h : v.norm < rotationEpsilon) (scale : ℝ) : exp v scale = identity := by
  rw [exp, if_pos h]

theorem exp_scale (haxis : axis.dot axis = 1) (hlarge : rotationEpsilon ≤ r) (scale : ℝ) :
    exp (axis.scale r) scale = aboutAxis axis (2 * (r * scale)) := by
  have hpos : 0 < r := rotationEpsilon_pos.trans_le hlarge
  have hparts : ofParts (Scalar.cos (r * scale))
      ((axis.scale r).scale (Scalar.sin (r * scale) / r)) = aboutAxis axis (2 * (r * scale)) := by
    have hhalf : 2 * (r * scale) / 2 = r * scale := by ring
    rw [aboutAxis, Scalar.two_eq, hhalf, Vector3.scale_scale, mul_div_cancel₀ _ hpos.ne']
  rw [exp, Vector3.norm_scale_axis haxis hpos.le, if_neg (not_lt.mpr hlarge)]
  simp only
  rw [hparts, (isRotation_aboutAxis haxis _).normalize_eq]

end Exponential
end Kinematics.Quaternion
