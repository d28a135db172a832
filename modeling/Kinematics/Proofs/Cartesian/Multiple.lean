import Kinematics.Proofs.Rotation.Multiple
import Kinematics.Proofs.Cartesian.Calculus
import Kinematics.Proofs.Cartesian.Orientation
import Kinematics.Proofs.Cartesian.Sum

/-!
# Multiples of states

A multiple of a state turns about the axis of its quaternion. Multiples of multiples multiply their
factors as long as the first stays within a full turn, and the multiple of a pose is where its twist
leads in as many seconds.
-/

namespace Kinematics
open Scalar (rotationEpsilon)

namespace CartesianValues
open CartesianState (multipleValues negatedValues orientation_multiple vector_multiple
  vector_negated)

section Laws
variable {v : CartesianValues ℝ}

theorem multiple_multiple (hv : v.orientation.IsRotation)
    (hlarge : rotationEpsilon ≤ v.orientation.vectorPart.norm) {j : ℝ}
    (hturn : |j| * Real.arccos v.orientation.w ≤ Real.pi)
    (hsin : rotationEpsilon ≤ Real.sin (|j| * Real.arccos v.orientation.w)) (k : ℝ) :
    multipleValues k (multipleValues j v) = multipleValues (k * j) v := by
  apply ext_vector
  · rw [orientation_multiple, orientation_multiple, orientation_multiple, mul_comm]
    exact Quaternion.exp_log_exp hv hlarge hturn hsin k
  · intro field
    rw [vector_multiple, vector_multiple, vector_multiple, Vector3.scale_scale, mul_comm]

theorem multiple_one (hv : v.orientation.IsRotation)
    (hlarge : rotationEpsilon ≤ v.orientation.vectorPart.norm) : multipleValues 1 v = v := by
  apply ext_vector
  · exact Quaternion.exp_log hv hlarge
  · intro field
    rw [vector_multiple, Vector3.scale_one]

theorem multiple_neg_one (hv : v.orientation.IsRotation)
    (hlarge : rotationEpsilon ≤ v.orientation.vectorPart.norm) :
    multipleValues (-1) v = negatedValues v := by
  apply ext_vector
  · exact Quaternion.exp_log_neg hv hlarge
  · intro field
    rw [vector_multiple, vector_negated, ← Vector3.neg_scale, Vector3.scale_one]

theorem multiple_inv_multiple_iff (hv : v.orientation.IsRotation)
    (hlarge : rotationEpsilon ≤ v.orientation.vectorPart.norm) {k : ℝ} (hk : k ≠ 0) :
    multipleValues (1 / k) (multipleValues k v) = v ↔
      |k| * Real.arccos v.orientation.w < Real.pi ∧
        rotationEpsilon ≤ Real.sin (|k| * Real.arccos v.orientation.w) := by
  rw [← Quaternion.exp_log_exp_inv_iff hv hlarge hk]
  constructor
  · intro h
    exact congrArg CartesianValues.orientation h
  · intro h
    apply ext_vector h
    intro field
    rw [vector_multiple, vector_multiple, Vector3.scale_scale, mul_one_div_cancel hk,
      Vector3.scale_one]

end Laws
end CartesianValues

namespace CartesianState
open CartesianValues

section Laws
variable {s : CartesianState ℝ}

theorem divide_zero (s : CartesianState ℝ) :
    s.divide 0 = .error (.stateDividedByZero s.name) :=
  if_pos (decide_eq_true rfl)

theorem divide_of_ne_zero (s : CartesianState ℝ) {k : ℝ} (hk : k ≠ 0) :
    s.divide k = s.scale (1 / k) := by
  have hbeq : (k == 0) = false := decide_eq_false hk
  rw [divide, hbeq]
  rfl

/-- Division leads back from a multiple exactly if the multiple is less than a full turn and is not
taken for none. -/
theorem scale_divide_eq_ok_iff (hs : s.empty = false) (horiented : s.Oriented)
    (hlarge : rotationEpsilon ≤ s.values.orientation.vectorPart.norm) (k : ℝ) :
    (do (← s.scale k).divide k) = .ok s ↔
      |k| * Real.arccos s.values.orientation.w < Real.pi ∧
        rotationEpsilon ≤ Real.sin (|k| * Real.arccos s.values.orientation.w) := by
  have hmultiple : (s.multiple k).empty = false := by rw [empty_multiple, hs]
  rw [scale_eq_ok hs]
  change (s.multiple k).divide k = _ ↔ _
  obtain rfl | hk := eq_or_ne k 0
  · rw [divide_zero, abs_zero, zero_mul, Real.sin_zero]
    refine iff_of_false (fun h => ?_) fun h => h.2.not_gt Scalar.rotationEpsilon_pos
    cases h
  · rw [divide_of_ne_zero _ hk, scale_eq_ok hmultiple,
      ← multiple_inv_multiple_iff horiented hlarge hk]
    constructor
    · intro h
      exact congrArg values (Except.ok.inj h)
    · intro h
      rw [multiple, multiple, h]

end Laws
end CartesianState

open CartesianState CartesianValues in
/-- Two factors multiply if the first leads to less than a full turn, either way round, that is not
taken for none, and only then does division lead back. The factor one changes nothing, and minus one
negates. -/
theorem multiples_compose {s : CartesianState ℝ} (hs : s.empty = false) (horiented : s.Oriented)
    (hlarge : rotationEpsilon ≤ s.values.orientation.vectorPart.norm) :
    let q := s.values.orientation
    let h := Scalar.atan2 q.vectorPart.norm q.w
    0 < h ∧ h < Real.pi ∧
      (∀ k₁ k₂, |k₂| * h < Real.pi → rotationEpsilon ≤ Real.sin (|k₂| * h) →
        ∃ t r, s.scale k₂ = .ok t ∧ t.scale k₁ = .ok r ∧ s.scale (k₁ * k₂) = .ok r) ∧
      (∀ k, (do (← s.scale k).divide k) = .ok s ↔
        |k| * h < Real.pi ∧ rotationEpsilon ≤ Real.sin (|k| * h)) ∧
      s.scale 1 = .ok s ∧ ∃ t, s.scale (-1) = .ok t ∧ s.negate = .ok t := by
  intro q h
  obtain ⟨-, -, -, -, hpos, hpi⟩ := Quaternion.exists_log horiented hlarge
  have hhalf : h = Real.arccos q.w := Quaternion.atan2_eq_arccos horiented
  rw [hhalf]
  refine ⟨Scalar.rotationEpsilon_pos.trans_le hpos, hpi, fun k₁ k₂ hturn hsin => ?_,
    scale_divide_eq_ok_iff hs horiented hlarge, ?_, ?_⟩
  · have hmultiple : (s.multiple k₂).empty = false := by rw [empty_multiple, hs]
    refine ⟨_, _, scale_eq_ok hs k₂, scale_eq_ok hmultiple k₁, ?_⟩
    rw [scale_eq_ok hs, multiple, ← multiple_multiple horiented hlarge hturn.le hsin]
    rfl
  · rw [scale_eq_ok hs, multiple, multiple_one horiented hlarge]
  · refine ⟨_, scale_eq_ok hs (-1), ?_⟩
    rw [negate_eq_ok hs, ← multiple_neg_one horiented hlarge]
    rfl

/-- A sixth of a turn, five times the other way round. -/
theorem multiples_compose_backwards :
    let s : CartesianState ℝ := (CartesianState.identity "arm" "base" ⟨0⟩).setOrientation
      (.aboutAxis ⟨0, 0, 1⟩ (Real.pi / 3))
    s.empty = false ∧ s.Oriented ∧ rotationEpsilon ≤ s.values.orientation.vectorPart.norm ∧
      (∃ t r, s.scale (-5) = .ok t ∧ t.scale 7 = .ok r ∧ s.scale (7 * -5) = .ok r) ∧
      (do (← s.scale (-5)).divide (-5)) = .ok s := by
  intro s
  have haxis : (⟨0, 0, 1⟩ : Vector3 ℝ).dot ⟨0, 0, 1⟩ = 1 := by norm_num [Vector3.dot]
  have hs : s.Oriented := Quaternion.isRotation_aboutAxis haxis _
  have hhalf : Real.pi / 3 / 2 = Real.pi / 6 := by ring
  have hlarge : rotationEpsilon ≤ s.values.orientation.vectorPart.norm := by
    change _ ≤ (Quaternion.aboutAxis (⟨0, 0, 1⟩ : Vector3 ℝ) (Real.pi / 3)).vectorPart.norm
    rw [Quaternion.norm_vectorPart_aboutAxis haxis (by positivity) (by linarith [Real.pi_pos]),
      hhalf, Real.sin_pi_div_six]
    norm_num [rotationEpsilon]
  have harccos : Real.arccos s.values.orientation.w = Real.pi / 6 := by
    change Real.arccos (Quaternion.aboutAxis (⟨0, 0, 1⟩ : Vector3 ℝ) (Real.pi / 3)).w = _
    rw [Quaternion.w_aboutAxis, hhalf]
    apply Real.arccos_cos <;> linarith [Real.pi_pos]
  have habs : |(-5 : ℝ)| * (Real.pi / 6) = Real.pi - Real.pi / 6 := by
    rw [abs_neg, abs_of_pos (by norm_num)]
    ring
  obtain ⟨-, -, hcompose, hdivide, -⟩ := multiples_compose (s := s) rfl hs hlarge
  rw [Quaternion.atan2_eq_arccos hs, harccos] at hcompose hdivide
  have hturn : |(-5 : ℝ)| * (Real.pi / 6) < Real.pi := by
    rw [habs]
    linarith [Real.pi_pos]
  have hsin : rotationEpsilon ≤ Real.sin (|(-5 : ℝ)| * (Real.pi / 6)) := by
    rw [habs, Real.sin_pi_sub, Real.sin_pi_div_six]
    norm_num [rotationEpsilon]
  exact ⟨rfl, hs, hlarge, hcompose 7 (-5) hturn hsin, (hdivide (-5)).mpr ⟨hturn, hsin⟩⟩

namespace CartesianPose

/-- Seen as a pose, a filled state is the pose with its position and orientation. -/
theorem project_eq_ofParts {α : Type} [Scalar α] {s : CartesianState α} (hs : s.empty = false) :
    s.project .pose =
      ofParts s.name s.values.position s.values.orientation s.frame s.timestamp := by
  have hvalues : s.values.restrict (CartesianKind.selection .pose).fields =
      (CartesianValues.identity.setVector .position s.values.position).setOrientation
        s.values.orientation := by
    apply CartesianValues.ext_vector
    · rfl
    · intro field
      cases field <;> rfl
  rw [CartesianState.project, hvalues]
  obtain ⟨⟨⟨type, name, empty, timestamp⟩, frame⟩, values⟩ := s
  cases hs
  rfl

section Multiple
variable {p : CartesianPose ℝ}

theorem scale_eq_ok (hp : p.general.empty = false) (k : ℝ) :
    p.scale k = .ok ((p.general.multiple k).project .pose) := by
  rw [CartesianProjection.scale, CartesianState.scale_eq_ok hp]
  rfl

/-- The twist over one second turns by the angle of the pose in each second. -/
theorem displaced_rate_second (hp : p.Placed) (dt : Duration) (t₁ t₂ : Instant) :
    displaced (p.rate (.ofSeconds 1 0) t₁) dt t₂ =
      CartesianProjection.touch ((p.general.multiple dt.seconds).project .pose) t₂ := by
  have hsecond : ((Duration.ofSeconds 1 0).seconds : ℝ) = 1 := by
    rw [Duration.seconds_ofSeconds]
    norm_num
  have hmultiple : (p.general.multiple (dt.seconds : ℝ)).empty = false := by
    rw [CartesianState.empty_multiple, hp.filled]
  have hlinear : (p.rate (.ofSeconds 1 0) t₁).linear = p.general.values.position := by
    rw [rate, CartesianScrew.linear_ofParts, hsecond]
    ext <;> simp only [Vector3.divide, div_one]
  have hangular : (p.rate (.ofSeconds 1 0) t₁).angular =
      p.general.values.orientation.log.vectorPart.scale 2 := by
    rw [rate, CartesianScrew.angular_ofParts, hsecond, Scalar.two_eq, div_one]
  rw [project_eq_ofParts hmultiple, displaced, hlinear, hangular, Scalar.two_eq,
    Quaternion.exp_scale_two_log hp.rotation]
  rfl

end Multiple
end CartesianPose

open CartesianPose in
/-- The twist of a pose over one second, held for any while, leads to the multiple of the pose by as
many seconds. The two are equal, with the same quaternion, but for the timestamp. -/
theorem held_twist_leads_to_multiple {p : CartesianPose ℝ} (hp : p.Placed) (dt : Duration)
    (t₁ t₂ : Instant) :
    ∃ (t : CartesianTwist ℝ) (r s : CartesianPose ℝ),
      p.differentiate (.ofSeconds 1 0) t₁ = .ok t ∧ t.integrate dt t₂ = .ok r ∧
      p.scale dt.seconds = .ok s ∧ r = CartesianProjection.touch s t₂ ∧
      s.general.name = p.general.name ∧ s.general.frame = p.general.frame ∧
      s.general.values.position = p.general.values.position.scale dt.seconds := by
  have hpos : 0 < (Duration.ofSeconds 1 0).nanoseconds := by decide
  exact ⟨_, _, _, differentiate_eq_ok hp.filled hpos t₁, integrate_eq_ok rfl dt t₂,
    scale_eq_ok hp.filled _, displaced_rate_second hp dt t₁ t₂, rfl, rfl, rfl⟩

/-- A turn by more than half a turn, held for two and a half seconds. -/
theorem held_twist_leads_to_multiple_long_way :
    let p : CartesianPose ℝ := .ofParts "arm" ⟨1, 0, 0⟩ ⟨-3 / 5, 0, 0, 4 / 5⟩ "base" ⟨0⟩
    let dt := Duration.ofSeconds 2 500000000
    p.Placed ∧ ∃ (t : CartesianTwist ℝ) (r s : CartesianPose ℝ),
      p.differentiate (.ofSeconds 1 0) ⟨1⟩ = .ok t ∧ t.integrate dt ⟨2⟩ = .ok r ∧
      p.scale (5 / 2) = .ok s ∧ r.general.values = s.general.values := by
  intro p dt
  have hp : p.Placed := by
    refine ⟨rfl, ?_⟩
    change (⟨-3 / 5, 0, 0, 4 / 5⟩ : Quaternion ℝ).IsRotation
    norm_num [Quaternion.IsRotation, Quaternion.normSq, Quaternion.dot]
  have hseconds : (dt.seconds : ℝ) = 5 / 2 := by
    rw [Duration.seconds_ofSeconds]
    norm_num
  obtain ⟨t, r, s, ht, hr, hs, hsame, -⟩ := held_twist_leads_to_multiple hp dt ⟨1⟩ ⟨2⟩
  rw [hseconds] at hs
  exact ⟨hp, t, r, s, ht, hr, hs, by rw [hsame]; rfl⟩

end Kinematics
