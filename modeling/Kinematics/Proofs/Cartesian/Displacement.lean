import Kinematics.Proofs.Rotation.Multiple
import Kinematics.Proofs.Cartesian.Calculus
import Kinematics.Proofs.Cartesian.Outcome

/-!
# Holding a twist

A twist that is held for some time after another leads as far as if it is held for both at once,
whatever the number of turns. What it leads to tells the twist apart from others as long as it turns
by less than a full turn, which may be more than half a turn.
-/

namespace Kinematics

namespace CartesianPose
open CartesianState (angle combine_eq_ok sumValues)
open Scalar (rotationEpsilon rotationEpsilon_pos)

section Recovered
variable {t : CartesianTwist ℝ} {dt : Duration}

theorem linear_rate_displaced (t : CartesianTwist ℝ) (hdt : 0 < dt.nanoseconds)
    (t₁ t₂ : Instant) : ((displaced t dt t₁).rate dt t₂).linear = t.linear := by
  rw [rate, CartesianScrew.linear_ofParts]
  change (t.linear.scale dt.seconds).divide dt.seconds = t.linear
  have hseconds := (Duration.seconds_pos hdt).ne'
  ext <;> simp only [Vector3.scale, Vector3.divide] <;> exact mul_div_cancel_right₀ _ hseconds

/-- The rate of a displacement is the twist that made it exactly if the logarithm leads back from
the exponential. -/
theorem angular_rate_displaced_iff_log (t : CartesianTwist ℝ) (hdt : 0 < dt.nanoseconds)
    (t₁ t₂ : Instant) :
    ((displaced t dt t₁).rate dt t₂).angular = t.angular ↔
      (Quaternion.exp t.angular (dt.seconds / 2)).log.vectorPart =
        t.angular.scale (dt.seconds / 2) := by
  have hseconds := (Duration.seconds_pos hdt).ne'
  have hcancel : (dt.seconds : ℝ) / 2 * (2 / dt.seconds) = 1 := by field_simp
  rw [rate, CartesianScrew.angular_ofParts, Scalar.two_eq]
  change (Quaternion.exp t.angular (dt.seconds / Scalar.two)).log.vectorPart.scale _ = _ ↔ _
  rw [Scalar.two_eq]
  constructor
  · intro h
    rw [← h, Vector3.scale_scale, mul_comm, hcancel, Vector3.scale_one, h]
  · intro h
    rw [h, Vector3.scale_scale, hcancel, Vector3.scale_one]

theorem angular_rate_displaced_iff (t : CartesianTwist ℝ) (hdt : 0 < dt.nanoseconds)
    (t₁ t₂ : Instant) :
    ((displaced t dt t₁).rate dt t₂).angular = t.angular ↔
      t.angular = 0 ∨ rotationEpsilon ≤ t.angular.norm ∧
        t.angular.norm * dt.seconds < 2 * Real.pi ∧
        rotationEpsilon ≤ Real.sin (t.angular.norm * dt.seconds / 2) := by
  have hhalf : 0 < (dt.seconds : ℝ) / 2 := half_pos (Duration.seconds_pos hdt)
  rw [angular_rate_displaced_iff_log t hdt]
  obtain hsmall | hlarge := lt_or_ge t.angular.norm rotationEpsilon
  · rw [or_iff_left fun h => hsmall.not_ge h.1, Quaternion.exp_of_lt hsmall,
      Quaternion.vectorPart_log_identity, eq_comm, ← Vector3.norm_eq_zero_iff,
      Vector3.norm_scale, mul_eq_zero, or_iff_right (abs_pos.mpr hhalf.ne').ne',
      Vector3.norm_eq_zero_iff]
  · have hne : t.angular ≠ 0 := by
      intro h
      rw [h, Vector3.norm_zero] at hlarge
      exact hlarge.not_gt rotationEpsilon_pos
    have hangle : |dt.seconds / 2| * t.angular.norm = t.angular.norm * dt.seconds / 2 := by
      rw [abs_of_pos hhalf]
      ring
    rw [Quaternion.log_exp_iff hlarge hhalf.ne', hangle, div_lt_iff₀' two_pos,
      or_iff_right hne, and_iff_right hlarge]

/-- By more than half a turn, a twist leads to where a shorter turn would have led as well. -/
theorem angle_displaced (hlarge : rotationEpsilon ≤ t.angular.norm)
    (hlong : Real.pi ≤ t.angular.norm * dt.seconds)
    (hturn : t.angular.norm * dt.seconds ≤ 2 * Real.pi) (now : Instant) :
    angle .identity (displaced t dt now).general.values.orientation =
      2 * Real.pi - t.angular.norm * dt.seconds := by
  obtain ⟨axis, haxis, -, hexp⟩ := Quaternion.exists_exp hlarge 1
  have horientation : (displaced t dt now).general.values.orientation =
      .aboutAxis axis (t.angular.norm * dt.seconds) := by
    change Quaternion.exp t.angular (dt.seconds / Scalar.two) = _
    rw [Scalar.two_eq, ← one_mul (dt.seconds / 2 : ℝ), hexp, abs_one, one_mul]
    congr 1
    ring
  rw [horientation, Quaternion.angle_identity_aboutAxis haxis hlong hturn]

end Recovered

section Sum
variable {t : CartesianTwist ℝ} {s₁ s₂ : Duration}

theorem add_eq_ok {α : Type} [Scalar α] {p q : CartesianPose α} (hp : p.general.empty = false)
    (hq : q.general.empty = false) (hframe : p.general.frame = q.general.frame) :
    p.add q = .ok (CartesianState.project
      { p.general with values := sumValues false p.general.values q.general.values } .pose) := by
  have hrelated : p.general.toSpatialState.Related q.general.toSpatialState := .inr (.inr hframe)
  rw [CartesianProjection.add, CartesianState.add, combine_eq_ok hp hq hrelated]
  rfl

/-- To hold a twist for another while adds its displacement to any pose that the twist has led to. -/
theorem exists_add_displaced {p : CartesianPose ℝ} {t₁ : Instant}
    (hp : p.SamePose (displaced t s₁ t₁)) (s₂ : Duration) (t₂ t₃ : Instant) :
    ∃ r : CartesianPose ℝ, p.add (displaced t s₂ t₂) = .ok r ∧
      r.SamePose (displaced t (s₁ + s₂) t₃) := by
  refine ⟨_, add_eq_ok hp.empty rfl hp.frame, hp.name, hp.frame, hp.empty, ?_, ?_⟩
  · have hsum : t.linear.scale s₁.seconds + (t.linear.scale s₂.seconds).scale 1 =
        t.linear.scale (s₁ + s₂).seconds := by
      rw [Vector3.scale_one, Duration.seconds_add]
      ext <;> simp only [Vector3.scale, Vector3.add_x, Vector3.add_y, Vector3.add_z, mul_add]
    refine Eq.trans ?_ hsum
    exact congrArg (· + _) hp.placement.position
  · have hrotation := Quaternion.isRotation_exp t.angular (s₂.seconds / Scalar.two)
    have hpose := hp.placement.orientation.isRotation (placed_displaced t s₁ t₁).rotation
    have hproduct := Quaternion.exp_mul_exp t.angular (s₁.seconds / Scalar.two)
      (s₂.seconds / Scalar.two)
    rw [← add_div, ← Duration.seconds_add] at hproduct
    have hsame := hp.placement.orientation.mul
      (Quaternion.SameRotation.refl (Quaternion.exp t.angular (s₂.seconds / Scalar.two)))
    exact (Quaternion.normalize_mul_alignedWith hpose hrotation).trans
      (hsame.trans (.inl hproduct))

/-- By induction on the durations: a twist may be held for any number of whiles in turn. -/
theorem exists_foldlM_displaced (ht : t.general.empty = false) {p : CartesianPose ℝ}
    {t₁ : Instant} (hp : p.SamePose (displaced t s₁ t₁)) (durations : List Duration)
    (t₂ t₃ : Instant) :
    ∃ r : CartesianPose ℝ,
      durations.foldlM (fun sum dt => do sum.add (← t.integrate dt t₂)) p = .ok r ∧
      r.SamePose (displaced t (durations.foldl (· + ·) s₁) t₃) := by
  induction durations generalizing p s₁ t₁ with
  | nil => exact ⟨p, rfl, hp.name, hp.frame, hp.empty, hp.placement⟩
  | cons dt durations ih =>
    obtain ⟨q, hq, hsame⟩ := exists_add_displaced hp dt t₂ t₃
    obtain ⟨r, hr, hresult⟩ := ih hsame
    refine ⟨r, ?_, hresult⟩
    rw [List.foldlM_cons, integrate_eq_ok ht]
    change (p.add (displaced t dt t₂) >>= _) = _
    rw [hq]
    exact hr

end Sum
end CartesianPose

open CartesianPose in
open CartesianState (angle) in
open Scalar (rotationEpsilon) in
/-- The pose that a twist leads to yields a twist with the same name, frame and linear velocity. It
has the same angular velocity exactly if the twist does not turn, or turns by less than a full turn
and by so much that neither threshold takes it for none. A turn by more than half a turn is then
recovered as it was made, and not as the shorter turn that leads to the same pose. -/
theorem pose_leads_back_to_twist {t : CartesianTwist ℝ} (ht : t.general.empty = false)
    {dt : Duration} (hdt : 0 < dt.nanoseconds) (t₁ t₂ : Instant) :
    let ω := t.angular
    ∃ (p : CartesianPose ℝ) (r : CartesianTwist ℝ),
      t.integrate dt t₁ = .ok p ∧ p.differentiate dt t₂ = .ok r ∧ r.general.empty = false ∧
      r.general.name = t.general.name ∧ r.general.frame = t.general.frame ∧
      r.linear = t.linear ∧
      (r.angular = ω ↔ ω = 0 ∨ rotationEpsilon ≤ ω.norm ∧ ω.norm * dt.seconds < 2 * Real.pi ∧
        rotationEpsilon ≤ Real.sin (ω.norm * dt.seconds / 2)) ∧
      (r.angular = ω → Real.pi < ω.norm * dt.seconds →
        r.angular.norm * dt.seconds =
          2 * Real.pi - angle .identity p.general.values.orientation) := by
  intro ω
  have hrecovered := angular_rate_displaced_iff t hdt t₁ t₂
  refine ⟨displaced t dt t₁, (displaced t dt t₁).rate dt t₂, integrate_eq_ok ht dt t₁,
    differentiate_eq_ok rfl hdt t₂, rfl, rfl, rfl, linear_rate_displaced t hdt t₁ t₂, hrecovered,
    fun hsame hlong => ?_⟩
  obtain hrest | ⟨hlarge, hturn, -⟩ := hrecovered.mp hsame
  · rw [show ω = 0 from hrest, Vector3.norm_zero, zero_mul] at hlong
    exact absurd hlong Real.pi_pos.not_gt
  · rw [hsame, angle_displaced hlarge hlong.le hturn.le, sub_sub_cancel]

/-- Five sixths of a full turn in one second. -/
theorem pose_leads_back_to_twist_long_way :
    let t : CartesianTwist ℝ := .ofParts .twist "arm" ⟨1, 0, 0⟩ ⟨0, 0, 5 * Real.pi / 3⟩ "base" ⟨0⟩
    let second := Duration.ofSeconds 1 0
    t.general.empty = false ∧ 0 < second.nanoseconds ∧
      ∃ (p : CartesianPose ℝ) (r : CartesianTwist ℝ),
        t.integrate second ⟨1⟩ = .ok p ∧ p.differentiate second ⟨2⟩ = .ok r ∧
        r.linear = ⟨1, 0, 0⟩ ∧ r.angular = ⟨0, 0, 5 * Real.pi / 3⟩ ∧
        CartesianState.angle .identity p.general.values.orientation = Real.pi / 3 := by
  intro t second
  have hpos : 0 < second.nanoseconds := by decide
  have hseconds : (second.seconds : ℝ) = 1 := by
    rw [Duration.seconds_ofSeconds]
    norm_num
  have hnorm : t.angular.norm = 5 * Real.pi / 3 := by
    have haxis : t.angular = (⟨0, 0, 1⟩ : Vector3 ℝ).scale (5 * Real.pi / 3) := by
      ext <;> simp [t, Vector3.scale]
    rw [haxis, Vector3.norm_scale_axis (by norm_num [Vector3.dot]) (by positivity)]
  have hsin : Real.sin (5 * Real.pi / 3 * 1 / 2) = 1 / 2 := by
    rw [← Real.sin_pi_div_six, ← Real.sin_pi_sub]
    congr 1
    ring
  obtain ⟨p, r, hp, hr, -, -, -, hlinear, hsame, hlong⟩ :=
    pose_leads_back_to_twist (t := t) rfl hpos ⟨1⟩ ⟨2⟩
  have hangular : r.angular = t.angular := by
    rw [hsame, hnorm, hseconds, hsin]
    refine .inr ⟨?_, ?_, ?_⟩
    · linarith [Scalar.rotationEpsilon_le_one, Real.pi_gt_three]
    · linarith [Real.pi_pos]
    · norm_num [Scalar.rotationEpsilon]
  rw [hangular, hnorm, hseconds] at hlong
  refine ⟨rfl, hpos, p, r, hp, hr, hlinear, hangular, ?_⟩
  linarith [hlong rfl (by linarith [Real.pi_pos])]

open CartesianPose in
/-- What a twist leads to in one while and in another adds up to what it leads to in both, up to the
sign of the orientation, and so for any number of whiles in turn. -/
theorem displacements_add_up {t : CartesianTwist ℝ} (ht : t.general.empty = false)
    (t₁ t₂ t₃ : Instant) :
    (∀ s₁ s₂ : Duration, ∃ p q r u : CartesianPose ℝ, t.integrate s₁ t₁ = .ok p ∧
      t.integrate s₂ t₂ = .ok q ∧ p.add q = .ok r ∧ t.integrate (s₁ + s₂) t₃ = .ok u ∧
      r.SamePose u) ∧
    ∀ (first : Duration) (durations : List Duration), ∃ p r u : CartesianPose ℝ,
      t.integrate first t₁ = .ok p ∧
      durations.foldlM (fun sum dt => do sum.add (← t.integrate dt t₂)) p = .ok r ∧
      t.integrate (durations.foldl (· + ·) first) t₃ = .ok u ∧ r.SamePose u := by
  have hstart (dt : Duration) : (displaced t dt t₁).SamePose (displaced t dt t₁) :=
    ⟨rfl, rfl, rfl, .refl _⟩
  constructor
  · intro s₁ s₂
    obtain ⟨r, hr, hsame⟩ := exists_add_displaced (hstart s₁) s₂ t₂ t₃
    exact ⟨_, _, r, _, integrate_eq_ok ht s₁ t₁, integrate_eq_ok ht s₂ t₂, hr,
      integrate_eq_ok ht (s₁ + s₂) t₃, hsame⟩
  · intro first durations
    obtain ⟨r, hr, hsame⟩ := exists_foldlM_displaced ht (hstart first) durations t₂ t₃
    exact ⟨_, r, _, integrate_eq_ok ht first t₁, hr, integrate_eq_ok ht _ t₃, hsame⟩

/-- No time at all, then several turns. -/
theorem displacements_add_up_turns :
    let t : CartesianTwist ℝ := .ofParts .twist "arm" ⟨1, 0, 0⟩ ⟨0, 0, Real.pi⟩ "base" ⟨0⟩
    let rest := Duration.ofSeconds 0 0
    let minute := Duration.ofSeconds 60 0
    t.general.empty = false ∧ ∃ p q r u : CartesianPose ℝ, t.integrate rest ⟨1⟩ = .ok p ∧
      t.integrate minute ⟨2⟩ = .ok q ∧ p.add q = .ok r ∧ t.integrate (rest + minute) ⟨3⟩ = .ok u ∧
      r.SamePose u := by
  intro t rest minute
  exact ⟨rfl, (displacements_add_up (t := t) rfl ⟨1⟩ ⟨2⟩ ⟨3⟩).1 rest minute⟩

end Kinematics
