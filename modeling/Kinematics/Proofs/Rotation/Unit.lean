import Kinematics.Proofs.Rotation.Logarithm
import Kinematics.Proofs.Edit
import Kinematics.Cartesian.Values
import Kinematics.Random

/-!
# Where unit quaternions come from

Whatever is normalized, drawn or taken as an exponential stands for a rotation.
-/

namespace Kinematics.Quaternion

theorem isRotation_iff_norm {q : Quaternion ℝ} : q.IsRotation ↔ q.norm = 1 := by
  rw [IsRotation, norm, Scalar.sqrt_eq]
  exact Real.sqrt_eq_one.symm

theorem isRotation_normalize {q : Quaternion ℝ} (hq : 0 < q.normSq) : q.normalize.IsRotation := by
  have hnorm : q.norm * q.norm = q.normSq := Real.mul_self_sqrt hq.le
  have hpos : 0 < q.norm := Real.sqrt_pos.mpr hq
  have hne : q.norm ≠ 0 := hpos.ne'
  have hscaled : q.normalize.normSq = q.normSq / (q.norm * q.norm) := by
    simp only [normSq, dot, normalize]
    field_simp
  rw [IsRotation, hscaled, hnorm, div_self hq.ne']

/-- Coefficients that are not refused are brought to norm one. -/
theorem isRotation_of_unit {q u : Quaternion ℝ} (h : q.unit = .ok u) : u.IsRotation := by
  unfold unit normalize? at h
  by_cases hlarge : Scalar.squaredNormEpsilon < q.normSq
  · rw [if_pos hlarge] at h
    cases h
    have hpos : (0 : ℝ) < Scalar.squaredNormEpsilon := by
      simp [Scalar.squaredNormEpsilon]
    exact isRotation_normalize (hpos.trans hlarge)
  · rw [if_neg hlarge] at h
    cases h

theorem isRotation_exp (v : Vector3 ℝ) (scale : ℝ) : (exp v scale).IsRotation := by
  obtain hsmall | hlarge := lt_or_ge v.norm Scalar.rotationEpsilon
  · rw [exp_of_lt hsmall]
    exact .identity
  · obtain ⟨axis, haxis, hv⟩ := v.exists_axis
    rw [hv, exp_scale haxis hlarge]
    exact isRotation_aboutAxis haxis _

section Random
variable {γ : Type} [RandomGen γ]

theorem randomUnit_nonneg (g : γ) : 0 ≤ ((randomUnit : StateM γ ℝ).run g).1 := by
  apply div_nonneg
  · exact Nat.cast_nonneg _
  · exact Nat.cast_nonneg _

/-- The squared radii of the two circles sum to one, so they are not both zero. -/
theorem isRotation_random (g : γ) : ((random : StateM γ (Quaternion ℝ)).run g).1.IsRotation := by
  obtain ⟨u, φ, ψ, hu, hq⟩ : ∃ u φ ψ : ℝ, 0 ≤ u ∧
      ((random : StateM γ (Quaternion ℝ)).run g).1 =
        normalize ⟨√u * Real.cos ψ, √(1 - u) * Real.sin φ, √(1 - u) * Real.cos φ,
          √u * Real.sin ψ⟩ :=
    ⟨_, _, _, randomUnit_nonneg g, rfl⟩
  rw [hq]
  apply isRotation_normalize
  have hφ := Real.cos_sq_add_sin_sq φ
  have hψ := Real.cos_sq_add_sin_sq ψ
  have hradii : normSq ⟨√u * Real.cos ψ, √(1 - u) * Real.sin φ, √(1 - u) * Real.cos φ,
      √u * Real.sin ψ⟩ = √u ^ 2 + √(1 - u) ^ 2 := by
    simp only [normSq, dot]
    linear_combination √(1 - u) ^ 2 * hφ + √u ^ 2 * hψ
  rw [hradii, Real.sq_sqrt hu]
  obtain rfl | hpos := hu.eq_or_lt
  · norm_num
  · positivity

end Random
end Kinematics.Quaternion
