import Kinematics.Proofs.Rotation.Angle
import Kinematics.Proofs.Rotation.Unit
import Kinematics.Proofs.Cartesian.DoubleCover
import Kinematics.Cartesian.Calculus

/-!
# From poses to twists and back

The twist of a pose turns the way its quaternion does, about the same axis and by the same angle,
which may be more than half a turn. Held for as long, it leads back to the pose, unless the turn or
the angular velocity is too small to be told from none.
-/

namespace Kinematics

namespace Duration

theorem seconds_eq (dt : Duration) : (dt.seconds : ℝ) = dt.nanoseconds / 10 ^ 9 := by
  have hsplit := congrArg (Nat.cast (R := ℝ)) (Nat.div_add_mod dt.nanoseconds (Nat.pow 10 9))
  simp only [Nat.cast_add, Nat.cast_mul] at hsplit
  have hpow : ((Nat.pow 10 9 : ℕ) : ℝ) = 10 ^ 9 := by norm_num
  rw [hpow] at hsplit
  rw [seconds, hpow, ← hsplit]
  field_simp

theorem seconds_add (s₁ s₂ : Duration) :
    ((s₁ + s₂).seconds : ℝ) = s₁.seconds + s₂.seconds := by
  have hsum : (s₁ + s₂).nanoseconds = s₁.nanoseconds + s₂.nanoseconds := rfl
  rw [seconds_eq, seconds_eq, seconds_eq, hsum, Nat.cast_add, add_div]

theorem seconds_ofSeconds (seconds nanoseconds : ℕ) :
    ((ofSeconds seconds nanoseconds).seconds : ℝ) = seconds + nanoseconds / 10 ^ 9 := by
  have hpow : ((Nat.pow 10 9 : ℕ) : ℝ) = 10 ^ 9 := by norm_num
  rw [seconds_eq, ofSeconds, Nat.cast_add, Nat.cast_mul, hpow]
  field_simp

theorem seconds_pos {dt : Duration} (h : 0 < dt.nanoseconds) : (0 : ℝ) < dt.seconds := by
  rw [seconds_eq]
  positivity

end Duration

theorem State.nonzeroSeconds_eq_ok (s : State) {dt : Duration} (h : 0 < dt.nanoseconds) :
    s.nonzeroSeconds dt = .ok (dt.seconds : ℝ) := by
  have hne : (dt.seconds : ℝ) ≠ 0 := (Duration.seconds_pos h).ne'
  have hbeq : ((dt.seconds : ℝ) == 0) = false := decide_eq_false hne
  rw [nonzeroSeconds, hbeq]
  rfl

section Screw
variable {α : Type} [Scalar α] (kind : ScrewKind) (name frame : String)
  (linear angular : Vector3 α) (now : Instant)

@[simp] theorem CartesianScrew.linear_ofParts :
    (CartesianScrew.ofParts kind name linear angular frame now).linear = linear := by
  cases kind <;> rfl

@[simp] theorem CartesianScrew.angular_ofParts :
    (CartesianScrew.ofParts kind name linear angular frame now).angular = angular := by
  cases kind <;> rfl

end Screw

namespace CartesianPose
open CartesianState (angle)
open Scalar (rotationEpsilon rotationEpsilon_pos rotationEpsilon_le_one)

/-- The twist that is taken of a pose. -/
def rate {α : Type} [Scalar α] (p : CartesianPose α) (dt : Duration) (now : Instant) :
    CartesianTwist α :=
  CartesianScrew.ofParts .twist p.general.name (p.general.values.position.divide dt.seconds)
    (p.general.values.orientation.log.vectorPart.scale (Scalar.two / dt.seconds))
    p.general.frame now

/-- The logarithm always points the way of its quaternion, so that its sign is never changed. -/
theorem differentiate_eq_ok {p : CartesianPose ℝ} (hp : p.general.empty = false) {dt : Duration}
    (hdt : 0 < dt.nanoseconds) (now : Instant) : p.differentiate dt now = .ok (p.rate dt now) := by
  have hsign : ¬p.general.values.orientation.dot p.general.values.orientation.log < 0 :=
    not_lt.mpr (Quaternion.dot_log_nonneg _)
  rw [differentiate, State.assertFilled_eq_ok hp, State.nonzeroSeconds_eq_ok _ hdt]
  simp only [if_neg hsign]
  rfl

/-- The pose that is reached by a twist. -/
def displaced {α : Type} [Scalar α] (t : CartesianTwist α) (dt : Duration) (now : Instant) :
    CartesianPose α :=
  ofParts t.general.name (t.linear.scale dt.seconds)
    (Quaternion.exp t.angular (dt.seconds / Scalar.two)) t.general.frame now

theorem integrate_eq_ok {α : Type} [Scalar α] {t : CartesianTwist α}
    (ht : t.general.empty = false) (dt : Duration) (now : Instant) :
    CartesianTwist.integrate t dt now = .ok (displaced t dt now) := by
  rw [CartesianTwist.integrate, State.assertFilled_eq_ok ht]
  rfl

section Rate
variable {p : CartesianPose ℝ} {dt : Duration} {axis : Vector3 ℝ} {θ : ℝ}

theorem angular_rate_of_lt (h : p.general.values.orientation.vectorPart.norm < rotationEpsilon)
    (dt : Duration) (now : Instant) : (p.rate dt now).angular = 0 := by
  rw [rate, CartesianScrew.angular_ofParts, Quaternion.log_of_lt h]
  exact Vector3.zero_scale _

theorem angular_rate_aboutAxis (horientation : p.general.values.orientation = .aboutAxis axis θ)
    (haxis : axis.dot axis = 1) (h0 : 0 ≤ θ) (hturn : θ ≤ 2 * Real.pi)
    (hlarge : rotationEpsilon ≤ p.general.values.orientation.vectorPart.norm)
    (dt : Duration) (now : Instant) : (p.rate dt now).angular = axis.scale (θ / dt.seconds) := by
  rw [horientation, Quaternion.norm_vectorPart_aboutAxis haxis h0 hturn] at hlarge
  rw [rate, CartesianScrew.angular_ofParts, horientation,
    Quaternion.log_aboutAxis haxis h0 hturn hlarge]
  change (axis.scale (θ / 2)).scale (Scalar.two / dt.seconds) = _
  rw [Vector3.scale_scale, Scalar.two_eq]
  congr 1
  ring

theorem norm_vectorPart_opposite (p : CartesianPose ℝ) :
    p.opposite.general.values.orientation.vectorPart.norm =
      p.general.values.orientation.vectorPart.norm :=
  Vector3.norm_neg p.general.values.orientation.vectorPart

/-- The turn of a pose that is not too small, the way that its quaternion goes and the way that the
other one does. -/
theorem exists_angular_rate (hp : p.Placed)
    (hlarge : rotationEpsilon ≤ p.general.values.orientation.vectorPart.norm)
    (dt : Duration) (now : Instant) :
    ∃ axis θ, axis.dot axis = 1 ∧ 0 < θ ∧ θ < 2 * Real.pi ∧
      p.general.values.orientation = .aboutAxis axis θ ∧
      (p.rate dt now).angular = axis.scale (θ / dt.seconds) ∧
      (p.opposite.rate dt now).angular = axis.scale ((θ - 2 * Real.pi) / dt.seconds) := by
  obtain ⟨axis, θ, haxis, h0, hturn, horientation⟩ := Quaternion.exists_aboutAxis hp.rotation
  have hsin : 0 < Real.sin (θ / 2) := by
    rw [← Quaternion.norm_vectorPart_aboutAxis haxis h0 hturn, ← horientation]
    exact rotationEpsilon_pos.trans_le hlarge
  have hpos : θ ≠ 0 := by
    rintro rfl
    simp at hsin
  have hless : θ ≠ 2 * Real.pi := by
    rintro rfl
    simp at hsin
  have hangular := angular_rate_aboutAxis horientation haxis h0 hturn hlarge dt now
  have hopposite : p.opposite.general.values.orientation =
      .aboutAxis (-axis) (2 * Real.pi - θ) := by
    rw [← Quaternion.neg_aboutAxis, ← horientation]
    rfl
  have hback : (p.opposite.rate dt now).angular =
      (-axis).scale ((2 * Real.pi - θ) / dt.seconds) := by
    apply angular_rate_aboutAxis hopposite
    · rw [Vector3.neg_dot_neg, haxis]
    · linarith
    · linarith
    · rwa [norm_vectorPart_opposite]
  refine ⟨axis, θ, haxis, h0.lt_of_ne' hpos, hturn.lt_of_ne hless, horientation, hangular, ?_⟩
  rw [hback, Vector3.neg_scale, ← neg_div, neg_sub]

theorem rate_opposite_eq_iff (hp : p.Placed) (hdt : 0 < dt.nanoseconds) (now : Instant) :
    p.opposite.rate dt now = p.rate dt now ↔
      p.general.values.orientation.vectorPart.norm < rotationEpsilon := by
  constructor
  · intro h
    by_contra hlarge
    obtain ⟨axis, θ, haxis, -, -, -, hangular, hback⟩ :=
      exists_angular_rate hp (not_lt.mp hlarge) dt now
    have hsame : axis.scale ((θ - 2 * Real.pi) / dt.seconds) = axis.scale (θ / dt.seconds) := by
      rw [← hback, ← hangular, h]
    have hangle := Vector3.scale_axis_inj haxis hsame
    rw [div_left_inj' (Duration.seconds_pos hdt).ne'] at hangle
    linarith [Real.pi_pos]
  · intro hsmall
    have hlog : p.opposite.general.values.orientation.log = p.general.values.orientation.log := by
      rw [Quaternion.log_of_lt hsmall, Quaternion.log_of_lt]
      rwa [norm_vectorPart_opposite]
    rw [rate, rate, hlog]
    rfl

/-- The way round is the short one if the scalar part is not negative. -/
theorem norm_angular_rate_le_iff (hp : p.Placed) (hdt : 0 < dt.nanoseconds) (now : Instant) :
    (p.rate dt now).angular.norm ≤ Real.pi / dt.seconds ↔
      p.general.values.orientation.vectorPart.norm < rotationEpsilon ∨
        0 ≤ p.general.values.orientation.w := by
  have hseconds := Duration.seconds_pos hdt
  obtain hsmall | hlarge := lt_or_ge p.general.values.orientation.vectorPart.norm rotationEpsilon
  · rw [angular_rate_of_lt hsmall, Vector3.norm_zero]
    exact iff_of_true (div_nonneg Real.pi_nonneg hseconds.le) (.inl hsmall)
  · obtain ⟨axis, θ, haxis, hpos, hturn, horientation, hangular, -⟩ :=
      exists_angular_rate hp hlarge dt now
    rw [hangular, Vector3.norm_scale_axis haxis (div_nonneg hpos.le hseconds.le),
      div_le_div_iff_of_pos_right hseconds, or_iff_right hlarge.not_gt, horientation,
      Quaternion.w_aboutAxis]
    constructor
    · intro hshort
      apply Real.cos_nonneg_of_mem_Icc
      constructor <;> linarith
    · intro hcos
      by_contra hlong
      have hneg : Real.cos (θ / 2) < 0 := by
        apply Real.cos_neg_of_pi_div_two_lt_of_lt <;> linarith [Real.pi_pos]
      exact hneg.not_ge hcos

end Rate

section Displaced
variable {p : CartesianPose ℝ} {dt : Duration}

theorem position_displaced_rate (p : CartesianPose ℝ) (hdt : 0 < dt.nanoseconds)
    (t₁ t₂ : Instant) :
    (displaced (p.rate dt t₁) dt t₂).general.values.position = p.general.values.position :=
  Vector3.divide_scale _ (Duration.seconds_pos hdt).ne'

theorem placed_displaced (t : CartesianTwist ℝ) (dt : Duration) (now : Instant) :
    (displaced t dt now).Placed :=
  ⟨rfl, Quaternion.isRotation_exp _ _⟩

theorem orientation_displaced_of_lt {t : CartesianTwist ℝ} (h : t.angular.norm < rotationEpsilon)
    (dt : Duration) (now : Instant) :
    (displaced t dt now).general.values.orientation = .identity :=
  Quaternion.exp_of_lt h _

theorem orientation_displaced_rate (hp : p.Placed) (hdt : 0 < dt.nanoseconds) (t₁ t₂ : Instant)
    (hlarge : rotationEpsilon ≤ p.general.values.orientation.vectorPart.norm)
    (hfast : rotationEpsilon ≤ (p.rate dt t₁).angular.norm) :
    (displaced (p.rate dt t₁) dt t₂).general.values.orientation =
      p.general.values.orientation := by
  obtain ⟨axis, θ, haxis, hpos, -, horientation, hangular, -⟩ :=
    exists_angular_rate hp hlarge dt t₁
  have hseconds := Duration.seconds_pos hdt
  change Quaternion.exp (p.rate dt t₁).angular (dt.seconds / Scalar.two) = _
  rw [hangular, Vector3.norm_scale_axis haxis (div_nonneg hpos.le hseconds.le)] at hfast
  rw [hangular, Quaternion.exp_scale haxis hfast, horientation, Scalar.two_eq]
  congr 1
  field_simp

private theorem arcsin_sin_le {x : ℝ} (hx : 0 ≤ x) : Real.arcsin (Real.sin x) ≤ x := by
  obtain hle | hlt := le_or_gt x (Real.pi / 2)
  · rw [Real.arcsin_sin (by linarith [Real.pi_pos]) hle]
  · exact (Real.arcsin_le_pi_div_two _).trans hlt.le

/-- What is lost is a turn that is too small for the logarithm, or one that is made too slowly for
the exponential. -/
theorem angle_displaced_rate_le (hp : p.Placed) (hdt : 0 < dt.nanoseconds) (t₁ t₂ : Instant) :
    angle (displaced (p.rate dt t₁) dt t₂).general.values.orientation
        p.general.values.orientation ≤
      max (2 * Real.arcsin rotationEpsilon) (rotationEpsilon * dt.seconds) := by
  have hseconds := Duration.seconds_pos hdt
  obtain hsmall | hlarge := lt_or_ge p.general.values.orientation.vectorPart.norm rotationEpsilon
  · have hrest : (p.rate dt t₁).angular.norm < rotationEpsilon := by
      rw [angular_rate_of_lt hsmall, Vector3.norm_zero]
      exact rotationEpsilon_pos
    rw [orientation_displaced_of_lt hrest, Quaternion.angle_identity hp.rotation]
    apply le_max_of_le_left
    exact mul_le_mul_of_nonneg_left (Real.arcsin_le_arcsin hsmall.le) two_pos.le
  obtain hslow | hfast := lt_or_ge (p.rate dt t₁).angular.norm rotationEpsilon
  · rw [orientation_displaced_of_lt hslow, Quaternion.angle_identity hp.rotation]
    obtain ⟨axis, θ, haxis, hpos, hturn, horientation, hangular, -⟩ :=
      exists_angular_rate hp hlarge dt t₁
    rw [hangular, Vector3.norm_scale_axis haxis (div_nonneg hpos.le hseconds.le),
      div_lt_iff₀ hseconds] at hslow
    rw [horientation, Quaternion.norm_vectorPart_aboutAxis haxis hpos.le hturn.le]
    apply le_max_of_le_right
    calc 2 * Real.arcsin (Real.sin (θ / 2))
      _ ≤ 2 * (θ / 2) := by
          gcongr
          exact arcsin_sin_le (by linarith)
      _ = θ := by ring
      _ ≤ rotationEpsilon * dt.seconds := hslow.le
  · rw [orientation_displaced_rate hp hdt t₁ t₂ hlarge hfast, Quaternion.angle_self hp.rotation]
    apply le_max_of_le_right
    exact mul_nonneg rotationEpsilon_pos.le hseconds.le

end Displaced
end CartesianPose

open CartesianPose in
open Scalar (rotationEpsilon) in
/-- The two quaternions of one pose yield twists with the same linear velocity, which turn about the
same axis by angles that are a full turn apart, unless the pose hardly turns at all. The angular
velocity goes the short way round exactly if the scalar part is not negative. -/
theorem twist_follows_quaternion {p : CartesianPose ℝ} (hp : p.Placed) {dt : Duration}
    (hdt : 0 < dt.nanoseconds) (now : Instant) :
    let q := p.general.values.orientation
    ∃ t t', p.differentiate dt now = .ok t ∧ p.opposite.differentiate dt now = .ok t' ∧
      t'.general.toSpatialState = t.general.toSpatialState ∧ t'.linear = t.linear ∧
      (q.vectorPart.norm < rotationEpsilon → t.angular = 0 ∧ t'.angular = 0) ∧
      (rotationEpsilon ≤ q.vectorPart.norm → ∃ axis θ, axis.dot axis = 1 ∧ 0 < θ ∧
        θ < 2 * Real.pi ∧ q = .aboutAxis axis θ ∧ t.angular = axis.scale (θ / dt.seconds) ∧
        t'.angular = axis.scale ((θ - 2 * Real.pi) / dt.seconds)) ∧
      (t' = t ↔ q.vectorPart.norm < rotationEpsilon) ∧
      (t.angular.norm ≤ Real.pi / dt.seconds ↔
        q.vectorPart.norm < rotationEpsilon ∨ 0 ≤ q.w) := by
  refine ⟨p.rate dt now, p.opposite.rate dt now, differentiate_eq_ok hp.filled hdt now,
    differentiate_eq_ok (p := p.opposite) hp.filled hdt now, rfl, rfl, fun hsmall => ⟨?_, ?_⟩,
    fun hlarge => exists_angular_rate hp hlarge dt now, rate_opposite_eq_iff hp hdt now,
    norm_angular_rate_le_iff hp hdt now⟩
  · exact angular_rate_of_lt hsmall dt now
  · rw [(rate_opposite_eq_iff hp hdt now).mpr hsmall]
    exact angular_rate_of_lt hsmall dt now

section Turned
open CartesianPose
open Scalar (rotationEpsilon)

private theorem isRotation_turned : (⟨3 / 5, 0, 0, 4 / 5⟩ : Quaternion ℝ).IsRotation := by
  norm_num [Quaternion.IsRotation, Quaternion.normSq, Quaternion.dot]

private theorem epsilon_le_turned :
    rotationEpsilon ≤ (⟨3 / 5, 0, 0, 4 / 5⟩ : Quaternion ℝ).vectorPart.norm := by
  have hvector : (⟨3 / 5, 0, 0, 4 / 5⟩ : Quaternion ℝ).vectorPart =
      (⟨0, 0, 1⟩ : Vector3 ℝ).scale (4 / 5) := by
    ext <;> simp [Quaternion.vectorPart, Vector3.scale]
  rw [hvector, Vector3.norm_scale_axis (by norm_num [Vector3.dot]) (by norm_num)]
  norm_num [rotationEpsilon]

/-- A turn by less than half a turn, whose other quaternion is read as one by more. -/
theorem twist_follows_quaternion_turned :
    let p : CartesianPose ℝ := .ofParts "arm" ⟨1, 0, 0⟩ ⟨3 / 5, 0, 0, 4 / 5⟩ "base" ⟨0⟩
    let second := Duration.ofSeconds 1 0
    p.Placed ∧ 0 < second.nanoseconds ∧
      ∃ t t', p.differentiate second ⟨1⟩ = .ok t ∧ p.opposite.differentiate second ⟨1⟩ = .ok t' ∧
        t'.linear = t.linear ∧ t' ≠ t ∧ t.angular.norm ≤ Real.pi / second.seconds := by
  intro p second
  have hp : p.Placed := ⟨rfl, isRotation_turned⟩
  have hpos : 0 < second.nanoseconds := by decide
  obtain ⟨t, t', ht, ht', -, hlinear, -, -, hsame, hshort⟩ :=
    twist_follows_quaternion hp hpos ⟨1⟩
  refine ⟨hp, hpos, t, t', ht, ht', hlinear, fun h => ?_, hshort.mpr (.inr ?_)⟩
  · exact epsilon_le_turned.not_gt (hsame.mp h)
  · change (0 : ℝ) ≤ 3 / 5
    norm_num

/-- The twist is not that of the rotation alone, and its angular velocity may exceed half a turn. -/
theorem opposite_pose_turns_the_long_way :
    let p : CartesianPose ℝ := .ofParts "arm" ⟨1, 0, 0⟩ ⟨3 / 5, 0, 0, 4 / 5⟩ "base" ⟨0⟩
    let second := Duration.ofSeconds 1 0
    p.Placed ∧
      ∃ t t', p.differentiate second ⟨1⟩ = .ok t ∧ p.opposite.differentiate second ⟨1⟩ = .ok t' ∧
        t' ≠ t ∧ Real.pi / second.seconds < t'.angular.norm := by
  intro p second
  have hp : p.Placed := ⟨rfl, isRotation_turned⟩
  have hopposite : p.opposite.Placed := ⟨rfl, hp.rotation.neg⟩
  have hpos : 0 < second.nanoseconds := by decide
  refine ⟨hp, p.rate second ⟨1⟩, p.opposite.rate second ⟨1⟩, differentiate_eq_ok hp.filled hpos _,
    differentiate_eq_ok hopposite.filled hpos _, fun h => ?_, ?_⟩
  · exact epsilon_le_turned.not_gt ((rate_opposite_eq_iff hp hpos _).mp h)
  · rw [← not_le, norm_angular_rate_le_iff hopposite hpos, norm_vectorPart_opposite]
    rintro (hsmall | hw)
    · exact epsilon_le_turned.not_gt hsmall
    · change (0 : ℝ) ≤ -(3 / 5) at hw
      norm_num at hw

end Turned

open CartesianPose in
open CartesianState (angle) in
open Scalar (rotationEpsilon) in
/-- The twist of a pose, held for as long as it was taken over, leads to a pose with the same name,
frame and position, whose rotation differs by a turn that is bounded by the two thresholds. It has
the same quaternion whenever neither threshold is met. -/
theorem twist_leads_back_to_pose {p : CartesianPose ℝ} (hp : p.Placed) {dt : Duration}
    (hdt : 0 < dt.nanoseconds) (t₁ t₂ : Instant) :
    let q := p.general.values.orientation
    ∃ (t : CartesianTwist ℝ) (r : CartesianPose ℝ),
      p.differentiate dt t₁ = .ok t ∧ t.integrate dt t₂ = .ok r ∧ r.Placed ∧
      r.general.name = p.general.name ∧ r.general.frame = p.general.frame ∧
      r.general.values.position = p.general.values.position ∧
      angle r.general.values.orientation q ≤
        max (2 * Real.arcsin rotationEpsilon) (rotationEpsilon * dt.seconds) ∧
      (∃ axis : Vector3 ℝ, axis.dot axis = 1 ∧
        (r.general.values.orientation *
          .aboutAxis axis (angle r.general.values.orientation q)).SameRotation q) ∧
      (rotationEpsilon ≤ q.vectorPart.norm → rotationEpsilon ≤ t.angular.norm →
        r.general.values.orientation = q) := by
  intro q
  have hr := placed_displaced (p.rate dt t₁) dt t₂
  exact ⟨p.rate dt t₁, displaced (p.rate dt t₁) dt t₂, differentiate_eq_ok hp.filled hdt t₁,
    integrate_eq_ok rfl dt t₂, hr, rfl, rfl, position_displaced_rate p hdt t₁ t₂,
    angle_displaced_rate_le hp hdt t₁ t₂, Quaternion.exists_turn hr.rotation hp.rotation,
    orientation_displaced_rate hp hdt t₁ t₂⟩

open CartesianPose in
/-- Half a turn, made within two and a half seconds. -/
theorem twist_leads_back_to_pose_half_turn :
    let p : CartesianPose ℝ :=
      .ofParts "arm" ⟨1, 0, 0⟩ (.aboutAxis ⟨0, 0, 1⟩ Real.pi) "base" ⟨0⟩
    let dt := Duration.ofSeconds 2 500000000
    p.Placed ∧ 0 < dt.nanoseconds ∧
      ∃ (t : CartesianTwist ℝ) (r : CartesianPose ℝ),
        p.differentiate dt ⟨1⟩ = .ok t ∧ t.integrate dt ⟨2⟩ = .ok r ∧
        Scalar.rotationEpsilon ≤ p.general.values.orientation.vectorPart.norm ∧
        Scalar.rotationEpsilon ≤ t.angular.norm ∧
        r.general.values.orientation = p.general.values.orientation := by
  intro p dt
  have haxis : (⟨0, 0, 1⟩ : Vector3 ℝ).dot ⟨0, 0, 1⟩ = 1 := by norm_num [Vector3.dot]
  have hp : p.Placed := ⟨rfl, Quaternion.isRotation_aboutAxis haxis Real.pi⟩
  have hpos : 0 < dt.nanoseconds := by decide
  have hseconds : (dt.seconds : ℝ) = 5 / 2 := by
    rw [Duration.seconds_eq]
    norm_num [dt, Duration.ofSeconds]
  have hturn : Real.pi ≤ 2 * Real.pi := by linarith [Real.pi_pos]
  have hlarge : Scalar.rotationEpsilon ≤ p.general.values.orientation.vectorPart.norm := by
    change _ ≤ (Quaternion.aboutAxis (⟨0, 0, 1⟩ : Vector3 ℝ) Real.pi).vectorPart.norm
    rw [Quaternion.norm_vectorPart_aboutAxis haxis Real.pi_nonneg hturn, Real.sin_pi_div_two]
    exact Scalar.rotationEpsilon_le_one
  obtain ⟨t, r, ht, hr, -, -, -, -, -, -, hsame⟩ := twist_leads_back_to_pose hp hpos ⟨1⟩ ⟨2⟩
  have hrate : t = p.rate dt ⟨1⟩ := by
    rw [differentiate_eq_ok hp.filled hpos] at ht
    exact (Except.ok.inj ht).symm
  have hfast : Scalar.rotationEpsilon ≤ t.angular.norm := by
    rw [hrate, angular_rate_aboutAxis rfl haxis Real.pi_nonneg hturn hlarge, hseconds,
      Vector3.norm_scale_axis haxis (by positivity)]
    apply Scalar.rotationEpsilon_le_one.trans
    linarith [Real.pi_gt_three]
  exact ⟨hp, hpos, t, r, ht, hr, hlarge, hfast, hsame hlarge hfast⟩

end Kinematics
