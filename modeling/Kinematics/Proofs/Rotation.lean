import Kinematics.Proofs.Vector3
import Kinematics.Quaternion

/-!
# Unit quaternions as rotations

A unit quaternion turns a vector as conjugation turns the pure quaternion of that vector. All
laws of rotations are read off this one fact and the associativity of Hamilton's product.
-/

namespace Kinematics.Quaternion

/-- The quaternions that stand for rotations have norm one. -/
def IsRotation (q : Quaternion ℝ) : Prop := q.normSq = 1

/-- Equal up to sign, as the two quaternions of one rotation are. -/
def SameRotation (p q : Quaternion ℝ) : Prop := p = q ∨ p = -q

section Product
variable (p q r : Quaternion ℝ)

protected theorem mul_assoc : p * q * r = p * (q * r) := by
  ext <;> simp only [mul_w, mul_x, mul_y, mul_z] <;> ring

@[simp] protected theorem mul_identity : q * identity = q := by
  ext <;> simp [identity]

@[simp] protected theorem identity_mul : identity * q = q := by
  ext <;> simp [identity]

@[simp] protected theorem neg_neg : -(-q) = q := by
  ext <;> simp

protected theorem neg_mul : -p * q = -(p * q) := by
  ext <;> simp only [neg_w, neg_x, neg_y, neg_z, mul_w, mul_x, mul_y, mul_z] <;> ring

protected theorem mul_neg : p * -q = -(p * q) := by
  ext <;> simp only [neg_w, neg_x, neg_y, neg_z, mul_w, mul_x, mul_y, mul_z] <;> ring

@[simp] theorem conjugate_conjugate : q.conjugate.conjugate = q := by
  ext <;> simp [conjugate]

theorem conjugate_neg : (-q).conjugate = -q.conjugate := rfl

theorem conjugate_mul : (p * q).conjugate = q.conjugate * p.conjugate := by
  ext <;> simp only [conjugate, mul_w, mul_x, mul_y, mul_z] <;> ring

@[simp] theorem conjugate_identity : (identity : Quaternion ℝ).conjugate = identity := by
  ext <;> simp [conjugate, identity]

theorem normSq_mul : (p * q).normSq = p.normSq * q.normSq := by
  simp only [normSq, dot, mul_w, mul_x, mul_y, mul_z]
  ring

@[simp] theorem normSq_neg : (-q).normSq = q.normSq := by
  simp only [normSq, dot, neg_w, neg_x, neg_y, neg_z]
  ring

theorem normalize_neg : (-q).normalize = -q.normalize := by
  ext <;> simp only [normalize, norm, normSq_neg, neg_w, neg_x, neg_y, neg_z, neg_div]

@[simp] theorem normSq_conjugate : q.conjugate.normSq = q.normSq := by
  simp only [normSq, dot, conjugate]
  ring

end Product

namespace IsRotation
variable {p q : Quaternion ℝ}

theorem of_coefficients {w x y z : ℝ} (h : x * x + z * z + (y * y + w * w) = 1) :
    IsRotation ⟨w, x, y, z⟩ := h

theorem identity : (identity : Quaternion ℝ).IsRotation := by
  simp [IsRotation, normSq, dot, Quaternion.identity]

theorem mul (hp : p.IsRotation) (hq : q.IsRotation) : (p * q).IsRotation := by
  rw [IsRotation, normSq_mul, hp, hq, one_mul]

theorem neg (hq : q.IsRotation) : (-q).IsRotation := by
  rwa [IsRotation, normSq_neg]

theorem conjugate (hq : q.IsRotation) : q.conjugate.IsRotation := by
  rwa [IsRotation, normSq_conjugate]

theorem normalize_eq (hq : q.IsRotation) : q.normalize = q := by
  have hnorm : q.norm = 1 := by
    rw [norm, hq, Scalar.sqrt_eq, Real.sqrt_one]
  simp only [normalize, hnorm, div_one]

theorem mul_conjugate (hq : q.IsRotation) : q * q.conjugate = Quaternion.identity := by
  have hone : q.x * q.x + q.z * q.z + (q.y * q.y + q.w * q.w) = 1 := hq
  ext <;> simp only [Quaternion.conjugate, Quaternion.identity, mul_w, mul_x, mul_y, mul_z]
  · linear_combination hone
  all_goals ring

theorem conjugate_mul (hq : q.IsRotation) : q.conjugate * q = Quaternion.identity := by
  simpa using hq.conjugate.mul_conjugate

end IsRotation

namespace SameRotation
variable {p q r p' q' : Quaternion ℝ}

@[refl] protected theorem refl (q : Quaternion ℝ) : q.SameRotation q := .inl rfl

theorem neg (q : Quaternion ℝ) : (-q).SameRotation q := .inr rfl

@[symm] protected theorem symm (h : p.SameRotation q) : q.SameRotation p := by
  rcases h with rfl | rfl
  · exact .inl rfl
  · exact .inr q.neg_neg.symm

@[trans] protected theorem trans (h : p.SameRotation q) (h' : q.SameRotation r) :
    p.SameRotation r := by
  rcases h with rfl | rfl <;> rcases h' with rfl | rfl
  · exact .inl rfl
  · exact .inr rfl
  · exact .inr rfl
  · exact .inl r.neg_neg

theorem mul (h : p.SameRotation p') (h' : q.SameRotation q') :
    (p * q).SameRotation (p' * q') := by
  rcases h with rfl | rfl <;> rcases h' with rfl | rfl
  · exact .inl rfl
  · exact .inr (Quaternion.mul_neg _ _)
  · exact .inr (Quaternion.neg_mul _ _)
  · exact .inl (by rw [Quaternion.neg_mul, Quaternion.mul_neg, Quaternion.neg_neg])

theorem conjugate (h : p.SameRotation q) : p.conjugate.SameRotation q.conjugate := by
  rcases h with rfl | rfl
  · exact .inl rfl
  · exact .inr (conjugate_neg q)

theorem normalize (h : p.SameRotation q) : p.normalize.SameRotation q.normalize := by
  rcases h with rfl | rfl
  · exact .inl rfl
  · exact .inr (normalize_neg q)

theorem isRotation (h : p.SameRotation q) (hq : q.IsRotation) : p.IsRotation := by
  rcases h with rfl | rfl
  · exact hq
  · exact hq.neg

end SameRotation

/-- The sign chosen for a quaternion is one of two. -/
theorem alignedWith_sameRotation (q reference : Quaternion ℝ) :
    (q.alignedWith reference).SameRotation q := by
  unfold alignedWith
  split
  · exact .neg q
  · rfl

theorem SameRotation.alignedWith {p q : Quaternion ℝ} (h : p.SameRotation q)
    (reference reference' : Quaternion ℝ) :
    (p.alignedWith reference).SameRotation (q.alignedWith reference') :=
  (alignedWith_sameRotation p reference).trans
    (h.trans (alignedWith_sameRotation q reference').symm)

/-- The sign alignment and the renormalization of a product of rotations change its sign at
most. -/
theorem normalize_mul_alignedWith {p q : Quaternion ℝ} (hp : p.IsRotation) (hq : q.IsRotation) :
    (p * q.alignedWith p).normalize.SameRotation (p * q) := by
  have hsame := alignedWith_sameRotation q p
  rw [(hp.mul (hsame.isRotation hq)).normalize_eq]
  exact .mul (.refl p) hsame

section Rotate
variable {p q : Quaternion ℝ}

@[simp] theorem rotate_zero (q : Quaternion ℝ) : q.rotate 0 = 0 := by
  ext <;> simp [rotate, Vector3.cross, Vector3.scale]

theorem rotate_add (q : Quaternion ℝ) (u v : Vector3 ℝ) :
    q.rotate (u + v) = q.rotate u + q.rotate v := by
  ext <;> simp only [rotate, Vector3.cross, Vector3.scale, Vector3.add_x, Vector3.add_y,
    Vector3.add_z] <;> ring

theorem rotate_neg (q : Quaternion ℝ) (v : Vector3 ℝ) : q.rotate (-v) = -q.rotate v := by
  ext <;> simp only [rotate, Vector3.cross, Vector3.scale, Vector3.add_x, Vector3.add_y,
    Vector3.add_z, Vector3.neg_x, Vector3.neg_y, Vector3.neg_z] <;> ring

theorem rotate_sub (q : Quaternion ℝ) (u v : Vector3 ℝ) :
    q.rotate (u - v) = q.rotate u - q.rotate v := by
  rw [sub_eq_add_neg, rotate_add, rotate_neg, ← sub_eq_add_neg]

theorem neg_rotate (q : Quaternion ℝ) (v : Vector3 ℝ) : (-q).rotate v = q.rotate v := by
  ext <;> simp only [rotate, vectorPart, Vector3.cross, Vector3.scale, Vector3.add_x,
    Vector3.add_y, Vector3.add_z, neg_w, neg_x, neg_y, neg_z] <;> ring

@[simp] theorem identity_rotate (v : Vector3 ℝ) : (identity : Quaternion ℝ).rotate v = v := by
  ext <;> simp [rotate, identity, vectorPart, Vector3.cross, Vector3.scale]

theorem SameRotation.rotate_eq (h : p.SameRotation q) (v : Vector3 ℝ) :
    p.rotate v = q.rotate v := by
  rcases h with rfl | rfl
  · rfl
  · exact neg_rotate q v

theorem ofParts_inj {s t : ℝ} {u v : Vector3 ℝ} (h : ofParts s u = ofParts t v) :
    s = t ∧ u = v := by
  simp only [ofParts, Quaternion.mk.injEq] at h
  exact ⟨h.1, Vector3.ext h.2.1 h.2.2.1 h.2.2.2⟩

theorem ofParts_mul (s t : ℝ) (u v : Vector3 ℝ) :
    ofParts s u * ofParts t v =
      ofParts (s * t - u.dot v) (v.scale s + u.scale t + u.cross v) := by
  ext <;> simp only [ofParts, mul_w, mul_x, mul_y, mul_z, Vector3.dot, Vector3.cross,
    Vector3.scale, Vector3.add_x, Vector3.add_y, Vector3.add_z] <;> ring

/-- A rotation is conjugation by its quaternion. -/
theorem mul_ofParts_mul_conjugate (hq : q.IsRotation) (s : ℝ) (v : Vector3 ℝ) :
    q * ofParts s v * q.conjugate = ofParts s (q.rotate v) := by
  have hone : q.x * q.x + q.z * q.z + (q.y * q.y + q.w * q.w) = 1 := hq
  ext <;> simp only [ofParts, rotate, vectorPart, conjugate, mul_w, mul_x, mul_y, mul_z,
    Vector3.cross, Vector3.scale, Vector3.add_x, Vector3.add_y, Vector3.add_z, Scalar.two_eq]
  · linear_combination s * hone
  · linear_combination v.x * hone
  · linear_combination v.y * hone
  · linear_combination v.z * hone

theorem mul_rotate (hp : p.IsRotation) (hq : q.IsRotation) (v : Vector3 ℝ) :
    (p * q).rotate v = p.rotate (q.rotate v) := by
  have h : ofParts 0 ((p * q).rotate v) = ofParts 0 (p.rotate (q.rotate v)) :=
    calc ofParts 0 ((p * q).rotate v)
      _ = p * q * ofParts 0 v * (p * q).conjugate := (mul_ofParts_mul_conjugate (hp.mul hq) 0 v).symm
      _ = p * (q * ofParts 0 v * q.conjugate) * p.conjugate := by
          simp only [Quaternion.conjugate_mul, Quaternion.mul_assoc]
      _ = ofParts 0 (p.rotate (q.rotate v)) := by
          rw [mul_ofParts_mul_conjugate hq, mul_ofParts_mul_conjugate hp]
  exact (ofParts_inj h).2

private theorem rotate_dot_cross (hq : q.IsRotation) (u v : Vector3 ℝ) :
    (q.rotate u).dot (q.rotate v) = u.dot v ∧
      (q.rotate u).cross (q.rotate v) = q.rotate (u.cross v) := by
  -- the product of two pure quaternions holds both products of their vectors
  have hpure (a b : Vector3 ℝ) : ofParts 0 a * ofParts 0 b = ofParts (-a.dot b) (a.cross b) := by
    rw [ofParts_mul]
    congr 1
    · ring
    · ext <;> simp [Vector3.scale]
  have h : ofParts (-(q.rotate u).dot (q.rotate v)) ((q.rotate u).cross (q.rotate v)) =
      ofParts (-u.dot v) (q.rotate (u.cross v)) :=
    calc _
      _ = ofParts 0 (q.rotate u) * ofParts 0 (q.rotate v) := (hpure _ _).symm
      _ = q * ofParts 0 u * (q.conjugate * q) * (ofParts 0 v * q.conjugate) := by
          simp only [← mul_ofParts_mul_conjugate hq, Quaternion.mul_assoc]
      _ = q * (ofParts 0 u * ofParts 0 v) * q.conjugate := by
          rw [hq.conjugate_mul, Quaternion.mul_identity]
          simp only [Quaternion.mul_assoc]
      _ = ofParts (-u.dot v) (q.rotate (u.cross v)) := by
          rw [hpure, mul_ofParts_mul_conjugate hq]
  obtain ⟨hdot, hcross⟩ := ofParts_inj h
  exact ⟨neg_injective hdot, hcross⟩

theorem dot_rotate (hq : q.IsRotation) (u v : Vector3 ℝ) :
    (q.rotate u).dot (q.rotate v) = u.dot v :=
  (rotate_dot_cross hq u v).1

theorem rotate_cross (hq : q.IsRotation) (u v : Vector3 ℝ) :
    q.rotate (u.cross v) = (q.rotate u).cross (q.rotate v) :=
  (rotate_dot_cross hq u v).2.symm

theorem rotate_conjugate_rotate (hq : q.IsRotation) (v : Vector3 ℝ) :
    q.rotate (q.conjugate.rotate v) = v := by
  rw [← mul_rotate hq hq.conjugate, hq.mul_conjugate, identity_rotate]

theorem conjugate_rotate_rotate (hq : q.IsRotation) (v : Vector3 ℝ) :
    q.conjugate.rotate (q.rotate v) = v := by
  rw [← mul_rotate hq.conjugate hq, hq.conjugate_mul, identity_rotate]

theorem norm_rotate (hq : q.IsRotation) (v : Vector3 ℝ) : (q.rotate v).norm = v.norm := by
  rw [Vector3.norm, Vector3.norm, dot_rotate hq]

theorem rotate_eq_zero_iff (hq : q.IsRotation) {v : Vector3 ℝ} : q.rotate v = 0 ↔ v = 0 := by
  constructor
  · intro h
    rw [← conjugate_rotate_rotate hq v, h, rotate_zero]
  · rintro rfl
    exact rotate_zero q

/-- A rotation is linear: it is known from the images of the three axes. -/
theorem rotate_eq_columns (q : Quaternion ℝ) (v : Vector3 ℝ) :
    q.rotate v = (q.rotate ⟨1, 0, 0⟩).scale v.x + (q.rotate ⟨0, 1, 0⟩).scale v.y +
      (q.rotate ⟨0, 0, 1⟩).scale v.z := by
  ext <;> simp only [rotate, Vector3.cross, Vector3.scale, Vector3.add_x, Vector3.add_y,
    Vector3.add_z] <;> ring

end Rotate

section Turn

theorem isRotation_aboutAxis {axis : Vector3 ℝ} (haxis : axis.dot axis = 1) (angle : ℝ) :
    (aboutAxis axis angle).IsRotation := by
  have hunit : axis.x * axis.x + axis.y * axis.y + axis.z * axis.z = 1 := haxis
  have hcircle := Real.cos_sq_add_sin_sq (angle / 2)
  simp only [IsRotation, normSq, dot, aboutAxis, ofParts, Vector3.scale, Scalar.two_eq,
    Scalar.sin_eq, Scalar.cos_eq]
  linear_combination Real.sin (angle / 2) ^ 2 * hunit + hcircle

/-- The turn of the plane, from half of its angle. -/
theorem rotate_aboutAxis_z (angle : ℝ) (v : Vector3 ℝ) :
    (aboutAxis ⟨0, 0, 1⟩ angle).rotate v =
      ⟨Real.cos angle * v.x - Real.sin angle * v.y,
        Real.sin angle * v.x + Real.cos angle * v.y, v.z⟩ := by
  have hcircle := Real.cos_sq_add_sin_sq (angle / 2)
  have htwice : 2 * (angle / 2) = angle := mul_div_cancel₀ angle two_ne_zero
  have hcos : Real.cos angle = 1 - 2 * Real.sin (angle / 2) ^ 2 := by
    have hdouble := Real.cos_two_mul (angle / 2)
    rw [htwice] at hdouble
    linear_combination hdouble + 2 * hcircle
  have hsin : Real.sin angle = 2 * Real.sin (angle / 2) * Real.cos (angle / 2) := by
    have hdouble := Real.sin_two_mul (angle / 2)
    rwa [htwice] at hdouble
  rw [hcos, hsin]
  ext <;> simp only [rotate, aboutAxis, ofParts, vectorPart, Vector3.cross, Vector3.scale,
    Vector3.add_x, Vector3.add_y, Vector3.add_z, Scalar.two_eq, Scalar.sin_eq, Scalar.cos_eq] <;>
    ring

end Turn

end Kinematics.Quaternion
