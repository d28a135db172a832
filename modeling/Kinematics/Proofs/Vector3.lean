import Kinematics.Proofs.Scalar
import Kinematics.Vector3

/-!
# Laws of real vectors

Vectors form a commutative group, the cross product is a derivation of itself, and every vector is
a unit vector scaled by its norm.
-/

namespace Kinematics.Vector3

noncomputable instance : AddCommGroup (Vector3 ℝ) where
  add_assoc u v w := by
    ext <;> simp only [add_x, add_y, add_z] <;> ring
  zero_add v := by
    ext <;> simp only [add_x, add_y, add_z, zero_x, zero_y, zero_z] <;> ring
  add_zero v := by
    ext <;> simp only [add_x, add_y, add_z, zero_x, zero_y, zero_z] <;> ring
  add_comm u v := by
    ext <;> simp only [add_x, add_y, add_z] <;> ring
  neg_add_cancel v := by
    ext <;> simp only [add_x, add_y, add_z, neg_x, neg_y, neg_z, zero_x, zero_y, zero_z] <;> ring
  sub_eq_add_neg u v := by
    ext <;> simp only [add_x, add_y, add_z, sub_x, sub_y, sub_z, neg_x, neg_y, neg_z] <;> ring
  nsmul := nsmulRec
  zsmul := zsmulRec

theorem toList_inj {α : Type} {u v : Vector3 α} : u.toList = v.toList ↔ u = v := by
  simp [toList, Vector3.ext_iff]

theorem scale_two (v : Vector3 ℝ) : v.scale 2 = v + v := by
  ext <;> simp only [scale, add_x, add_y, add_z] <;> ring

theorem cross_add (u v w : Vector3 ℝ) : u.cross (v + w) = u.cross v + u.cross w := by
  ext <;> simp only [cross, add_x, add_y, add_z] <;> ring

theorem add_cross (u v w : Vector3 ℝ) : (u + v).cross w = u.cross w + v.cross w := by
  ext <;> simp only [cross, add_x, add_y, add_z] <;> ring

theorem cross_neg (u v : Vector3 ℝ) : u.cross (-v) = -u.cross v := by
  ext <;> simp only [cross, neg_x, neg_y, neg_z] <;> ring

theorem neg_cross (u v : Vector3 ℝ) : (-u).cross v = -u.cross v := by
  ext <;> simp only [cross, neg_x, neg_y, neg_z] <;> ring

theorem cross_scale (u v : Vector3 ℝ) (k : ℝ) : u.cross (v.scale k) = (u.cross v).scale k := by
  ext <;> simp only [cross, scale] <;> ring

@[simp] theorem cross_zero (v : Vector3 ℝ) : v.cross 0 = 0 := by
  ext <;> simp [cross]

@[simp] theorem zero_cross (v : Vector3 ℝ) : cross 0 v = 0 := by
  ext <;> simp [cross]

@[simp] theorem cross_self (v : Vector3 ℝ) : v.cross v = 0 := by
  ext <;> simp only [cross, zero_x, zero_y, zero_z] <;> ring

/-- Jacobi's identity, read as the product rule of a cross product. -/
theorem cross_cross (u v w : Vector3 ℝ) :
    u.cross (v.cross w) = (u.cross v).cross w + v.cross (u.cross w) := by
  ext <;> simp only [cross, add_x, add_y, add_z] <;> ring

section Norm

theorem scale_scale (v : Vector3 ℝ) (j k : ℝ) : (v.scale j).scale k = v.scale (j * k) := by
  ext <;> simp only [scale] <;> ring

theorem neg_scale (v : Vector3 ℝ) (k : ℝ) : (-v).scale k = v.scale (-k) := by
  ext <;> simp only [scale, neg_x, neg_y, neg_z] <;> ring

@[simp] theorem scale_one (v : Vector3 ℝ) : v.scale 1 = v := by
  ext <;> simp [scale]

@[simp] theorem scale_zero (v : Vector3 ℝ) : v.scale 0 = 0 := by
  ext <;> simp [scale]

@[simp] theorem zero_scale (k : ℝ) : (0 : Vector3 ℝ).scale k = 0 := by
  ext <;> simp [scale]

theorem divide_scale (v : Vector3 ℝ) {k : ℝ} (hk : k ≠ 0) : (v.divide k).scale k = v := by
  ext <;> simp only [divide, scale] <;> exact div_mul_cancel₀ _ hk

theorem dot_scale_scale (v : Vector3 ℝ) (k : ℝ) :
    (v.scale k).dot (v.scale k) = k * k * v.dot v := by
  simp only [dot, scale]
  ring

theorem neg_dot_neg (u v : Vector3 ℝ) : (-u).dot (-v) = u.dot v := by
  simp only [dot, neg_x, neg_y, neg_z, neg_mul_neg]

theorem dot_self_nonneg (v : Vector3 ℝ) : 0 ≤ v.dot v :=
  add_nonneg (add_nonneg (mul_self_nonneg v.x) (mul_self_nonneg v.y)) (mul_self_nonneg v.z)

theorem norm_nonneg (v : Vector3 ℝ) : 0 ≤ v.norm := Real.sqrt_nonneg _

theorem norm_mul_self (v : Vector3 ℝ) : v.norm * v.norm = v.dot v :=
  Real.mul_self_sqrt v.dot_self_nonneg

@[simp] theorem norm_zero : (0 : Vector3 ℝ).norm = 0 := by
  simp [norm, dot]

theorem norm_scale (v : Vector3 ℝ) (k : ℝ) : (v.scale k).norm = |k| * v.norm := by
  rw [norm, dot_scale_scale, Scalar.sqrt_eq, Real.sqrt_mul (mul_self_nonneg k),
    Real.sqrt_mul_self_eq_abs]
  rfl

@[simp] theorem norm_neg (v : Vector3 ℝ) : (-v).norm = v.norm := by
  rw [norm, neg_dot_neg]
  rfl

theorem norm_eq_zero_iff {v : Vector3 ℝ} : v.norm = 0 ↔ v = 0 := by
  constructor
  · intro h
    have hsum : v.x * v.x + v.y * v.y + v.z * v.z = 0 := by
      have hsq := v.norm_mul_self
      rwa [h, mul_zero, eq_comm] at hsq
    have hxy := add_nonneg (mul_self_nonneg v.x) (mul_self_nonneg v.y)
    obtain ⟨hxy, hz⟩ := (add_eq_zero_iff_of_nonneg hxy (mul_self_nonneg v.z)).mp hsum
    obtain ⟨hx, hy⟩ :=
      (add_eq_zero_iff_of_nonneg (mul_self_nonneg v.x) (mul_self_nonneg v.y)).mp hxy
    exact Vector3.ext (mul_self_eq_zero.mp hx) (mul_self_eq_zero.mp hy) (mul_self_eq_zero.mp hz)
  · rintro rfl
    exact norm_zero

/-- The vector as a point of Euclidean space. -/
noncomputable def coordinates (v : Vector3 ℝ) : EuclideanSpace ℝ (Fin 3) :=
  .toLp _ ![v.x, v.y, v.z]

theorem norm_coordinates (v : Vector3 ℝ) : ‖v.coordinates‖ = v.norm := by
  simp [EuclideanSpace.norm_eq, coordinates, Fin.sum_univ_three, norm, dot, sq]

theorem coordinates_sub (u v : Vector3 ℝ) :
    (u - v).coordinates = u.coordinates - v.coordinates := by
  ext i
  fin_cases i <;> rfl

theorem norm_sub_comm (u v : Vector3 ℝ) : (u - v).norm = (v - u).norm := by
  rw [← neg_sub, norm_neg]

theorem norm_sub_le (u v w : Vector3 ℝ) : (u - w).norm ≤ (u - v).norm + (v - w).norm := by
  simp only [← norm_coordinates, coordinates_sub]
  exact norm_sub_le_norm_sub_add_norm_sub _ _ _

theorem norm_sub_eq_zero_iff {u v : Vector3 ℝ} : (u - v).norm = 0 ↔ u = v :=
  norm_eq_zero_iff.trans sub_eq_zero

variable {axis : Vector3 ℝ}

/-- The length along a unit vector. -/
theorem norm_scale_axis (haxis : axis.dot axis = 1) {k : ℝ} (hk : 0 ≤ k) :
    (axis.scale k).norm = k := by
  rw [norm_scale, norm, haxis, Scalar.sqrt_eq, Real.sqrt_one, mul_one, abs_of_nonneg hk]

theorem scale_axis_inj (haxis : axis.dot axis = 1) {j k : ℝ} (h : axis.scale j = axis.scale k) :
    j = k := by
  have hunit : axis.x * axis.x + axis.y * axis.y + axis.z * axis.z = 1 := haxis
  have hdot (r : ℝ) : (axis.scale r).dot axis = r := by
    simp only [dot, scale]
    linear_combination r * hunit
  rw [← hdot j, h, hdot]

/-- Every vector lies on an axis, and the zero vector on any. -/
theorem exists_axis (v : Vector3 ℝ) :
    ∃ axis : Vector3 ℝ, axis.dot axis = 1 ∧ v = axis.scale v.norm := by
  obtain hzero | hne := eq_or_ne v.norm 0
  · refine ⟨⟨1, 0, 0⟩, by norm_num [dot], ?_⟩
    rw [hzero, scale_zero, norm_eq_zero_iff.mp hzero]
  · refine ⟨v.scale v.norm⁻¹, ?_, ?_⟩
    · rw [dot_scale_scale, ← norm_mul_self]
      field_simp
    · rw [scale_scale, inv_mul_cancel₀ hne, scale_one]

end Norm

end Kinematics.Vector3
