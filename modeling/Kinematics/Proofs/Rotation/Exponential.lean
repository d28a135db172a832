import Kinematics.Proofs.Rotation.Multiple

/-!
# Exponential and logarithm undo each other

The exponential leads from vectors to unit quaternions, and the logarithm leads back. Vectors and
vector parts below one threshold count as no rotation, and the half angle that is read is less than
`π`. Where each of the two undoes the other is therefore found exactly, for all vectors and all unit
quaternions.
-/

namespace Kinematics.Quaternion
open Scalar (rotationEpsilon rotationEpsilon_pos)

theorem norm_ofParts_zero (v : Vector3 ℝ) : (ofParts 0 v).norm = v.norm := by
  have hnormSq : (ofParts 0 v).normSq = v.dot v := by
    simp only [normSq, dot, ofParts, Vector3.dot]
    ring
  rw [norm, hnormSq]
  rfl

section Logarithm
variable {q : Quaternion ℝ}

/-- The logarithm has no scalar part. -/
theorem log_eq_ofParts (q : Quaternion ℝ) : q.log = ofParts 0 q.log.vectorPart := by
  obtain hsmall | hlarge := lt_or_ge q.vectorPart.norm rotationEpsilon
  · rw [log_of_lt hsmall]
    rfl
  · rw [log, if_neg hlarge.not_gt]
    rfl

theorem log_eq_ofParts_iff {v : Vector3 ℝ} : q.log = ofParts 0 v ↔ q.log.vectorPart = v := by
  constructor
  · intro h
    rw [h]
    rfl
  · rintro rfl
    exact log_eq_ofParts q

theorem norm_log_eq (q : Quaternion ℝ) : q.log.norm = q.log.vectorPart.norm := by
  rw [log_eq_ofParts q]
  exact norm_ofParts_zero _

theorem norm_log_lt_pi (hq : q.IsRotation) : q.log.norm < Real.pi := by
  rw [norm_log_eq]
  obtain hsmall | hlarge := lt_or_ge q.vectorPart.norm rotationEpsilon
  · rw [vectorPart_log_of_lt hsmall, Vector3.norm_zero]
    exact Real.pi_pos
  · obtain ⟨-, -, -, -, -, hpi⟩ := exists_log hq hlarge
    rwa [norm_log hq hlarge]

/-- The logarithm vanishes below the threshold and nowhere else. -/
theorem norm_log_pos_iff (hq : q.IsRotation) :
    0 < q.log.norm ↔ rotationEpsilon ≤ q.vectorPart.norm := by
  rw [norm_log_eq]
  constructor
  · intro hpos
    by_contra hsmall
    rw [vectorPart_log_of_lt (not_le.mp hsmall), Vector3.norm_zero] at hpos
    exact hpos.false
  · intro hlarge
    exact rotationEpsilon_pos.trans_le (rotationEpsilon_le_norm_log hq hlarge)

/-- The exponential leads back from the logarithm, to the same of the two quaternions of a
rotation, exactly if the rotation is not taken for none or is none. -/
theorem exp_log_iff (hq : q.IsRotation) :
    exp q.log.vectorPart 1 = q ↔ rotationEpsilon ≤ q.vectorPart.norm ∨ q = identity := by
  obtain hsmall | hlarge := lt_or_ge q.vectorPart.norm rotationEpsilon
  · rw [vectorPart_log_of_lt hsmall, exp_zero, or_iff_right hsmall.not_ge, eq_comm]
  · exact iff_of_true (exp_log hq hlarge) (.inl hlarge)

end Logarithm

/-- The logarithm leads back from the exponential exactly if there is nothing to turn by, or the
vector counts and it turns less than a full turn and is not taken for none. -/
theorem log_exp_eq_iff (v : Vector3 ℝ) (k : ℝ) :
    (exp v k).log = ofParts 0 (v.scale k) ↔
      v.scale k = 0 ∨ rotationEpsilon ≤ v.norm ∧ |k| * v.norm < Real.pi ∧
        rotationEpsilon ≤ Real.sin (|k| * v.norm) := by
  rw [log_eq_ofParts_iff]
  obtain hsmall | hlarge := lt_or_ge v.norm rotationEpsilon
  · have hnot : ¬(rotationEpsilon ≤ v.norm ∧ |k| * v.norm < Real.pi ∧
        rotationEpsilon ≤ Real.sin (|k| * v.norm)) := fun h => hsmall.not_ge h.1
    rw [exp_of_lt hsmall, vectorPart_log_identity, or_iff_left hnot, eq_comm]
  · obtain rfl | hk := eq_or_ne k 0
    · rw [exp_zero_right, vectorPart_log_identity, Vector3.scale_zero]
      exact iff_of_true rfl (.inl rfl)
    · have hturn : v.scale k ≠ 0 := by
        rw [← Vector3.norm_eq_zero_iff.ne, Vector3.norm_scale]
        exact mul_ne_zero (abs_ne_zero.mpr hk) (rotationEpsilon_pos.trans_le hlarge).ne'
      rw [log_exp_iff hlarge hk, or_iff_right hturn, and_iff_right hlarge]

/-- Exponentials are unit quaternions; those of one vector multiply as their factors add, and the
opposite factor turns back. The logarithm of a unit quaternion is pure, shorter than `π`, and zero
only where the vector part is below the threshold. The exponential leads back from it, with the same
sign, but for the rotations that are taken for none without being none. The logarithm leads back
from an exponential that turns less than a full turn, either way round, unless the vector or the
turn is taken for none. -/
theorem exponential_undoes_logarithm :
    (∀ (v : Vector3 ℝ) (s t : ℝ), (exp v s).IsRotation ∧ exp v s * exp v t = exp v (s + t) ∧
      exp v (-s) = (exp v s).conjugate) ∧
    (∀ q : Quaternion ℝ, q.IsRotation → q.log.w = 0 ∧
      (0 < q.log.norm ↔ rotationEpsilon ≤ q.vectorPart.norm) ∧ q.log.norm < Real.pi ∧
      (exp q.log.vectorPart 1 = q ↔ rotationEpsilon ≤ q.vectorPart.norm ∨ q = identity)) ∧
    ∀ (v : Vector3 ℝ) (s : ℝ), (exp v s).log = ofParts 0 (v.scale s) ↔
      v.scale s = 0 ∨ rotationEpsilon ≤ v.norm ∧ |s| * v.norm < Real.pi ∧
        rotationEpsilon ≤ Real.sin (|s| * v.norm) := by
  refine ⟨fun v s t => ⟨isRotation_exp v s, exp_mul_exp v s t, exp_neg v s⟩, fun q hq => ?_,
    log_exp_eq_iff⟩
  have hpure : q.log.w = 0 := by
    rw [log_eq_ofParts q]
    rfl
  exact ⟨hpure, norm_log_pos_iff hq, norm_log_lt_pi hq, exp_log_iff hq⟩

/-- A quaternion that turns the long way, and a sixth of a turn, five times the other way round. -/
theorem exponential_undoes_logarithm_backwards :
    let q : Quaternion ℝ := ⟨-3 / 5, 0, 4 / 5, 0⟩
    let v : Vector3 ℝ := ⟨0, 0, Real.pi / 6⟩
    q.IsRotation ∧ q.log.w = 0 ∧ 0 < q.log.norm ∧ q.log.norm < Real.pi ∧
      exp q.log.vectorPart 1 = q ∧ exp v (-5) = (exp v 5).conjugate ∧
      (exp v (-5)).log = ofParts 0 (v.scale (-5)) := by
  intro q v
  obtain ⟨hexp, hlog, hback⟩ := exponential_undoes_logarithm
  have hepsilon : (rotationEpsilon : ℝ) ≤ 1 / 2 := by norm_num [rotationEpsilon]
  have hq : q.IsRotation := .of_coefficients (by norm_num)
  have hvector : q.vectorPart = (⟨0, 1, 0⟩ : Vector3 ℝ).scale (4 / 5) := by
    ext <;> simp [q, vectorPart, Vector3.scale]
  have hlarge : rotationEpsilon ≤ q.vectorPart.norm := by
    rw [hvector, Vector3.norm_scale_axis (by norm_num [Vector3.dot]) (by norm_num)]
    linarith
  have haxis : v = (⟨0, 0, 1⟩ : Vector3 ℝ).scale (Real.pi / 6) := by
    ext <;> simp [v, Vector3.scale]
  have hnorm : v.norm = Real.pi / 6 := by
    rw [haxis, Vector3.norm_scale_axis (by norm_num [Vector3.dot])]
    linarith [Real.pi_pos]
  have hangle : |(-5 : ℝ)| * v.norm = Real.pi - Real.pi / 6 := by
    rw [hnorm, abs_neg, abs_of_pos (by norm_num)]
    ring
  obtain ⟨hpure, hpos, hlt, hrestored⟩ := hlog q hq
  refine ⟨hq, hpure, hpos.mpr hlarge, hlt, hrestored.mpr (.inl hlarge), (hexp v 5 0).2.2,
    (hback v (-5)).mpr (.inr ⟨?_, ?_, ?_⟩)⟩
  · rw [hnorm]
    linarith [Real.pi_gt_three]
  · rw [hangle]
    linarith [Real.pi_pos]
  · rwa [hangle, Real.sin_pi_sub, Real.sin_pi_div_six]

end Kinematics.Quaternion
