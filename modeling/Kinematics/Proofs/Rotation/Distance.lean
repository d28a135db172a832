import Kinematics.Proofs.Rotation.Angle

/-!
# The angle as a distance of rotations

Unit quaternions are points of a sphere, and rotations are pairs of opposite points. The angle
between two rotations is twice the angle between those of their points that lie in one hemisphere.
It is a metric of rotations, and rotations that are turned alike stay as far apart as they were.
-/

namespace Kinematics.Quaternion
open CartesianState (angle)

section Turned
variable (p q r : Quaternion ℝ)

theorem dot_comm : p.dot q = q.dot p := by
  simp only [dot]
  ring

theorem angle_comm : angle p q = angle q p := by
  rw [angle, angle, dot_comm]

theorem angle_nonneg : 0 ≤ angle p q := Real.arccos_nonneg _

theorem dot_mul_mul : (r * p).dot (r * q) = r.normSq * p.dot q := by
  simp only [normSq, dot, mul_w, mul_x, mul_y, mul_z]
  ring

theorem angle_mul_mul {r : Quaternion ℝ} (hr : r.IsRotation) :
    angle (r * p) (r * q) = angle p q := by
  rw [angle, angle, dot_mul_mul, hr, one_mul]

end Turned

section Metric
variable {p q r : Quaternion ℝ}

/-- A turn by no angle at all leads to the same rotation. -/
theorem angle_eq_zero_iff (hp : p.IsRotation) (hq : q.IsRotation) :
    angle p q = 0 ↔ p.SameRotation q := by
  constructor
  · intro h
    obtain ⟨axis, -, hturn⟩ := exists_turn hp hq
    rwa [h, aboutAxis_zero, Quaternion.mul_identity] at hturn
  · intro h
    rw [h.angle_eq (.refl q), angle_self hq]

theorem angle_eq_two_mul_arccos (hp : p.IsRotation) (hq : q.IsRotation) :
    angle p q = 2 * Real.arccos |p.dot q| := by
  have hle : |p.dot q| ≤ 1 := abs_le_one_iff_mul_self_le_one.mpr (dot_mul_dot_le_one hp hq)
  have hcos : Real.cos (Real.arccos |p.dot q|) = |p.dot q| :=
    Real.cos_arccos ((neg_one_lt_zero.le).trans (abs_nonneg _)) hle
  have hdouble : 2 * (p.dot q * p.dot q) - 1 = Real.cos (2 * Real.arccos |p.dot q|) := by
    rw [Real.cos_two_mul, hcos, sq_abs, sq]
  rw [angle_eq_arccos hp hq, hdouble, Real.arccos_cos]
  · exact mul_nonneg two_pos.le (Real.arccos_nonneg _)
  · linarith [Real.arccos_le_pi_div_two.mpr (abs_nonneg (p.dot q))]

/-- The quaternion as a point of Euclidean space; rotations are points of its unit sphere. -/
noncomputable def coordinates (q : Quaternion ℝ) : EuclideanSpace ℝ (Fin 4) :=
  .toLp _ ![q.w, q.x, q.y, q.z]

theorem inner_coordinates (p q : Quaternion ℝ) :
    inner ℝ p.coordinates q.coordinates = p.dot q := by
  simp only [coordinates, PiLp.inner_apply, Fin.sum_univ_four, Matrix.cons_val_zero,
    Matrix.cons_val_one, Matrix.cons_val, RCLike.inner_apply, Real.ringHom_apply, dot]
  ring

theorem norm_coordinates (hq : q.IsRotation) : ‖q.coordinates‖ = 1 := by
  rw [norm_eq_sqrt_real_inner, inner_coordinates, show q.dot q = 1 from hq, Real.sqrt_one]

theorem angle_coordinates (hp : p.IsRotation) (hq : q.IsRotation) :
    InnerProductGeometry.angle p.coordinates q.coordinates = Real.arccos (p.dot q) := by
  rw [InnerProductGeometry.angle, inner_coordinates, norm_coordinates hp, norm_coordinates hq,
    mul_one, div_one]

theorem arccos_dot_le (hp : p.IsRotation) (hq : q.IsRotation) (hr : r.IsRotation) :
    Real.arccos (p.dot r) ≤ Real.arccos (p.dot q) + Real.arccos (q.dot r) := by
  rw [← angle_coordinates hp hr, ← angle_coordinates hp hq, ← angle_coordinates hq hr]
  exact InnerProductGeometry.angle_le_angle_add_angle _ _ _

theorem dot_alignedWith_nonneg (q reference : Quaternion ℝ) :
    0 ≤ reference.dot (q.alignedWith reference) := by
  rw [alignedWith]
  split
  case isTrue h =>
    rw [dot_neg]
    exact neg_nonneg.mpr h.le
  case isFalse h => exact not_lt.mp h

/-- The triangle inequality of the sphere, for the points of `p` and `r` that lie in the hemisphere
of `q`. There the ways to `q` are the short ones, while the way from `p` to `r` need not be. -/
theorem angle_le_angle_add_angle (hp : p.IsRotation) (hq : q.IsRotation) (hr : r.IsRotation) :
    angle p r ≤ angle p q + angle q r := by
  have hsame := alignedWith_sameRotation p q
  have hsame' := alignedWith_sameRotation r q
  rw [← hsame.angle_eq hsame', ← hsame.angle_eq (.refl q), ← SameRotation.angle_eq (.refl q) hsame']
  have hpq := dot_alignedWith_nonneg p q
  have hqr := dot_alignedWith_nonneg r q
  rw [dot_comm] at hpq
  replace hp := hsame.isRotation hp
  replace hr := hsame'.isRotation hr
  have hshort := Real.arccos_le_arccos (le_abs_self ((p.alignedWith q).dot (r.alignedWith q)))
  rw [angle_eq_two_mul_arccos hp hr, angle_eq_two_mul_arccos hp hq, angle_eq_two_mul_arccos hq hr,
    abs_of_nonneg hpq, abs_of_nonneg hqr]
  linarith [arccos_dot_le hp hq hr]

end Metric
end Kinematics.Quaternion
