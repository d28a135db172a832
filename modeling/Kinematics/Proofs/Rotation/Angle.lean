import Kinematics.Proofs.Rotation.Logarithm
import Kinematics.Cartesian.Algebra

/-!
# The angle between two rotations

It is the angle of the turn that leads from the one rotation to the other, taken the short way
round, and therefore does not tell the two quaternions of a rotation apart.
-/

namespace Kinematics.Quaternion
open CartesianState (angle)

section Dot
variable (p q : Quaternion ℝ)

theorem dot_neg : p.dot (-q) = -p.dot q := by
  simp only [dot, neg_w, neg_x, neg_y, neg_z]
  ring

theorem neg_dot : (-p).dot q = -p.dot q := by
  simp only [dot, neg_w, neg_x, neg_y, neg_z]
  ring

/-- The inner product, from the rotation that leads from `p` to `q`. -/
theorem w_conjugate_mul : (p.conjugate * q).w = p.dot q := by
  simp only [conjugate, mul_w, dot]
  ring

end Dot

section Angle
variable {p q p' q' : Quaternion ℝ}

theorem angle_neg (p q : Quaternion ℝ) : angle p (-q) = angle p q := by
  rw [angle, angle, dot_neg, mul_assoc, mul_assoc, neg_mul_neg]

theorem neg_angle (p q : Quaternion ℝ) : angle (-p) q = angle p q := by
  rw [angle, angle, neg_dot, mul_assoc, mul_assoc, neg_mul_neg]

theorem SameRotation.angle_eq (h : p.SameRotation p') (h' : q.SameRotation q') :
    angle p q = angle p' q' := by
  rcases h with rfl | rfl <;> rcases h' with rfl | rfl <;> simp only [angle_neg, neg_angle]

theorem dot_mul_dot_le_one (hp : p.IsRotation) (hq : q.IsRotation) : p.dot q * p.dot q ≤ 1 := by
  rw [← w_conjugate_mul, ← (hp.conjugate.mul hq).circle]
  exact le_add_of_nonneg_right (mul_self_nonneg _)

/-- The cosine that is read never needs the bounds that it is brought between. -/
theorem cosine_mem_Icc (hp : p.IsRotation) (hq : q.IsRotation) :
    Scalar.two * p.dot q * p.dot q - 1 ∈ Set.Icc (-1) 1 := by
  rw [Scalar.two_eq, mul_assoc]
  constructor
  · linarith [mul_self_nonneg (p.dot q)]
  · linarith [dot_mul_dot_le_one hp hq]

theorem angle_eq_arccos (hp : p.IsRotation) (hq : q.IsRotation) :
    angle p q = Real.arccos (2 * (p.dot q * p.dot q) - 1) := by
  obtain ⟨hlower, hupper⟩ := cosine_mem_Icc hp hq
  rw [angle, Scalar.clamp, if_neg hlower.not_gt, if_neg hupper.not_gt, Scalar.two_eq, mul_assoc]
  rfl

theorem angle_self (hq : q.IsRotation) : angle q q = 0 := by
  have hone : q.dot q = 1 := hq
  rw [angle_eq_arccos hq hq, hone]
  norm_num

/-- The angle of a rotation alone, from the sine of its half. -/
theorem angle_identity (hq : q.IsRotation) :
    angle identity q = 2 * Real.arcsin q.vectorPart.norm := by
  have hdot : identity.dot q = q.w := by simp [dot, identity]
  have hsin : Real.sin (Real.arcsin q.vectorPart.norm) = q.vectorPart.norm := by
    apply Real.sin_arcsin
    · linarith [q.vectorPart.norm_nonneg]
    · exact hq.norm_vectorPart_le_one
  have hcos : 2 * (q.w * q.w) - 1 = Real.cos (2 * Real.arcsin q.vectorPart.norm) := by
    rw [Real.cos_two_mul, Real.cos_sq', hsin]
    linear_combination 2 * hq.circle
  rw [angle_eq_arccos .identity hq, hdot, hcos, Real.arccos_cos]
  · exact mul_nonneg two_pos.le (Real.arcsin_nonneg.mpr q.vectorPart.norm_nonneg)
  · linarith [Real.arcsin_le_pi_div_two q.vectorPart.norm]

/-- The angle of `p` and `q` is that of a turn which leads from `p` to `q`. -/
theorem exists_turn (hp : p.IsRotation) (hq : q.IsRotation) :
    ∃ axis : Vector3 ℝ, axis.dot axis = 1 ∧
      (p * aboutAxis axis (angle p q)).SameRotation q := by
  obtain ⟨axis, θ, haxis, h0, hturn, hway⟩ := exists_aboutAxis (hp.conjugate.mul hq)
  have hback : p * aboutAxis axis θ = q := by
    rw [← hway, ← Quaternion.mul_assoc, hp.mul_conjugate, Quaternion.identity_mul]
  have hangle : angle p q = Real.arccos (Real.cos θ) := by
    have hdouble := Real.cos_two_mul (θ / 2)
    rw [mul_div_cancel₀ θ two_ne_zero] at hdouble
    rw [angle_eq_arccos hp hq, ← w_conjugate_mul, hway, w_aboutAxis, hdouble, sq]
  obtain hshort | hlong := le_or_gt θ Real.pi
  · refine ⟨axis, haxis, ?_⟩
    rw [hangle, Real.arccos_cos h0 hshort, hback]
  · refine ⟨-axis, ?_, ?_⟩
    · rw [Vector3.neg_dot_neg, haxis]
    · have hrest : Real.arccos (Real.cos θ) = 2 * Real.pi - θ := by
        rw [← Real.cos_two_pi_sub]
        apply Real.arccos_cos <;> linarith
      rw [hangle, hrest, ← neg_aboutAxis, Quaternion.mul_neg, hback]
      exact .neg q

end Angle
end Kinematics.Quaternion
