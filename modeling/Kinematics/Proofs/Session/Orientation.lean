import Kinematics.Proofs.Cartesian.Orientation
import Kinematics.Proofs.Session.Invariant

/-!
# Orientations in sessions

As long as callers give unit quaternions as rotations, every orientation that a session yields has
norm one.
-/

namespace Kinematics

/-- Callers give unit quaternions wherever a rotation is asked for, and are free otherwise. -/
def Conduct.unitRotations : Conduct ℝ := ⟨Quaternion.IsRotation, fun _ => True⟩

theorem CartesianState.Change.keeps_oriented {change : CartesianState.Change ℝ}
    (hallowed : change.Allowed .unitRotations) : change.edit.Keeps Oriented := by
  refine .of_settles fun s hs => (change.settles s).mono fun t ht => ?_
  cases change with
  | setName | setFrame | setEmpty | touch | setVector =>
    subst ht
    exact hs
  | setZero | clear =>
    subst ht
    exact .identity
  | setOrientation q =>
    subst ht
    exact hallowed
  | setOrientationCoefficients q =>
    obtain ⟨u, hu, rfl⟩ := ht
    exact Quaternion.isRotation_of_unit hu
  | write | multiply | clamp => exact Rewritten.oriented ht hs

theorem CartesianProjection.Change.keeps_oriented {kind : CartesianKind}
    {change : CartesianProjection.Change ℝ kind} (hallowed : change.Allowed .unitRotations) :
    change.edit.Keeps Oriented := by
  refine .of_settles fun p hp => (change.settles p).mono fun q hq => ?_
  cases change with
  | setName | setFrame | setEmpty | touch | setPosition | setLinear | setAngular =>
    subst hq
    exact hp
  | setZero | clear =>
    subst hq
    exact .identity
  | setOrientation u =>
    subst hq
    exact hallowed
  | setOrientationCoefficients w =>
    obtain ⟨u, hu, rfl⟩ := hq
    exact Quaternion.isRotation_of_unit hu
  | setData data => exact CartesianState.Rewritten.oriented hq hp
  | clamp | clampWith => exact CartesianScrew.Rewritten.oriented hq hp

/-- Cartesian states and projections have rotations for orientations; nothing is asked of joints. -/
def Property.oriented : Property ℝ where
  cartesian s := s.Oriented
  projection p := p.Oriented
  joint _ := True
  jointProjection _ := True

namespace Property
variable {held : List (Value ℝ)}

theorem oriented_of_makesCartesian (hheld : ∀ v ∈ held, oriented.Holds v) {s : CartesianState ℝ}
    (h : MakesCartesian .unitRotations held s) : s.Oriented := by
  have horiented {s : CartesianState ℝ} (hs : .cartesian s ∈ held) : s.Oriented :=
    hheld (.cartesian s) hs
  cases h with
  | new | identity => exact .identity
  | random g name frame now => exact CartesianState.oriented_random name frame now g
  | @general _ p hp => exact hheld (.projection p) hp
  | operate op hs hoperands h =>
    exact op.oriented_of_apply (horiented hs) (fun o ho => horiented (hoperands o ho)) h
  | @change s change hs hallowed => exact change.keeps_oriented hallowed s (horiented hs)

theorem oriented_of_makesProjection (hheld : ∀ v ∈ held, oriented.Holds v) {kind : CartesianKind}
    {p : CartesianProjection ℝ kind} (h : MakesProjection .unitRotations held p) :
    p.Oriented := by
  have horiented {kind : CartesianKind} {p : CartesianProjection ℝ kind}
      (hp : .projection p ∈ held) : p.Oriented := hheld (.projection p) hp
  cases h with
  | new | identity | ofPosition | zero | ofVectors => exact .identity
  | random g kind name frame now =>
    exact CartesianProjection.oriented_project (CartesianState.oriented_random name frame now g)
      kind
  | @project s kind hs =>
    exact CartesianProjection.oriented_project (hheld (.cartesian s) hs) kind
  | operate op hp hoperands h =>
    exact op.oriented_of_apply (horiented hp) (fun o ho => horiented (hoperands o ho)) h
  | @change _ p change hp hallowed => exact change.keeps_oriented hallowed p (horiented hp)
  | ofParts name position orientation frame now hallowed => exact hallowed
  | ofIsometry name isometry frame now hallowed => exact hallowed
  | compose now hp hq h =>
    exact CartesianPose.oriented_of_compose (horiented hp) (horiented hq) h
  | differentiatePose dt now hp h => exact CartesianPose.oriented_of_differentiate h
  | integrateTwist dt now ht h => exact CartesianTwist.oriented_of_integrate h
  | differentiateTwist dt now ht h => exact CartesianTwist.oriented_of_differentiate h
  | integrateAcceleration dt now ha h => exact CartesianAcceleration.oriented_of_integrate h
  | poseOfTwist now ht h => exact CartesianTwist.oriented_of_integrate h
  | accelerationOfTwist now ht h => exact CartesianTwist.oriented_of_differentiate h
  | rotation now he h =>
    obtain ⟨-, -, h⟩ := exists_of_bind_eq_ok h
    cases h
    refine Quaternion.isRotation_aboutAxis ?_ _
    simp [Vector3.dot]

theorem oriented_kept : oriented.Kept .unitRotations where
  cartesian hheld h := oriented_of_makesCartesian hheld h
  projection hheld h := oriented_of_makesProjection hheld h
  joint _ _ := trivial
  jointProjection _ _ := trivial

end Property

/-- As long as callers give unit quaternions as rotations, every orientation has norm one: those of
general states, of projections, and of the centers of shapes. -/
theorem orientations_stay_unit {held : List (Value ℝ)} (h : Session .unitRotations held) :
    (∀ s : CartesianState ℝ, .cartesian s ∈ held → s.values.orientation.norm = 1) ∧
    (∀ (kind : CartesianKind) (p : CartesianProjection ℝ kind), .projection p ∈ held →
      p.general.values.orientation.norm = 1) ∧
    (∀ s : Shape ℝ, .shape s ∈ held → s.centerOrientation.norm = 1) ∧
    ∀ e : Ellipsoid ℝ, .ellipsoid e ∈ held → e.centerOrientation.norm = 1 := by
  have hheld := h.holds Property.oriented_kept
  refine ⟨fun s hs => ?_, fun kind p hp => ?_, fun s hs => ?_, fun e he => ?_⟩
  · exact Quaternion.isRotation_iff_norm.mp (hheld (.cartesian s) hs)
  · exact Quaternion.isRotation_iff_norm.mp (hheld (.projection p) hp)
  · exact Quaternion.isRotation_iff_norm.mp (hheld (.shape s) hs)
  · exact Quaternion.isRotation_iff_norm.mp (hheld (.ellipsoid e) he)

/-- A tool is oriented by coefficients of norm three and scaled by a negative factor, and a shape is
centered on its pose. -/
theorem orientations_stay_unit_raw :
    let raw : Quaternion ℝ := ⟨1, 2, 2, 0⟩
    let tool : CartesianState ℝ := .identity "tool" "base" ⟨0⟩
    let turned := ((CartesianState.Change.setOrientationCoefficients raw).edit.applyTo tool).2
    ∃ (scaled : CartesianState ℝ) (shape : Shape ℝ) (held : List (Value ℝ)),
      raw.norm = 3 ∧
      ((CartesianState.Change.setOrientationCoefficients raw).edit.applyTo tool).1 = .ok () ∧
      turned.scale (-5) = .ok scaled ∧
      (Shape.setCenter (scaled.project .pose)).applyTo (.new "ball" "base" ⟨1⟩) =
        (.ok (), shape) ∧
      Session .unitRotations held ∧ .cartesian scaled ∈ held ∧ .shape shape ∈ held ∧
      scaled.values.orientation.norm = 1 ∧ shape.centerOrientation.norm = 1 := by
  intro raw tool turned
  have hnormSq : raw.normSq = 9 := by
    simp only [raw, Quaternion.normSq, Quaternion.dot]
    norm_num
  have hnorm : raw.norm = 3 := by
    rw [Quaternion.norm, hnormSq, Scalar.sqrt_eq]
    exact (Real.sqrt_eq_iff_mul_self_eq (by norm_num) (by norm_num)).mpr (by norm_num)
  have hunit : raw.unit = .ok raw.normalize := by
    have hlarge : Scalar.squaredNormEpsilon < raw.normSq := by
      rw [hnormSq, Scalar.squaredNormEpsilon]
      norm_num
    rw [Quaternion.unit, Quaternion.normalize?, if_pos hlarge]
  have hturned : (CartesianState.Change.setOrientationCoefficients raw).edit.applyTo tool =
      (.ok (), tool.setOrientation raw.normalize) := by
    simp only [CartesianState.Change.edit, CartesianState.setOrientationCoefficients,
      Edit.applyTo_bind, Edit.applyTo_liftM, hunit, Edit.applyTo_modify]
  have hfilled : turned.empty = false := by
    simp only [turned, hturned]
    rfl
  obtain ⟨scaled, hscaled⟩ : ∃ scaled, turned.scale (-5) = .ok scaled := by
    rw [CartesianState.scale, State.assertFilled_eq_ok hfilled]
    exact ⟨_, rfl⟩
  have hscaledFilled : scaled.empty = false := by
    rw [CartesianState.scale, State.assertFilled_eq_ok hfilled] at hscaled
    cases hscaled
    exact hfilled
  let ball : Shape ℝ := .new "ball" "base" ⟨1⟩
  let shape : Shape ℝ := { ball with center := scaled.project .pose, empty := false }
  have hshape : (Shape.setCenter (scaled.project .pose)).applyTo ball = (.ok (), shape) := by
    have hpose : ((scaled.project .pose).general.assertFilled : Except (StateError ℝ) Unit) =
        .ok () := State.assertFilled_eq_ok hscaledFilled
    simp only [Shape.setCenter, Edit.applyTo_bind, Edit.applyTo_require, hpose,
      Edit.applyTo_modify]
    rfl
  let held : List (Value ℝ) := [.shape shape, .shape ball, .projection (scaled.project .pose),
    .cartesian scaled, .cartesian turned, .cartesian tool]
  have hturn : Step .unitRotations [.cartesian tool] (.cartesian turned) :=
    .cartesian (.change (.setOrientationCoefficients raw) List.mem_cons_self trivial)
  have hscale : Step .unitRotations [.cartesian turned, .cartesian tool] (.cartesian scaled) :=
    .cartesian (.operate (.scale (-5)) List.mem_cons_self
      (fun _ ho => absurd ho List.not_mem_nil) hscaled)
  have hcenter : Step .unitRotations held.tail (.shape shape) := by
    have hchange : ((Shape.Change.setCenter (scaled.project .pose)).edit.applyTo ball).2 = shape :=
      congrArg Prod.snd hshape
    have hpose : ∀ u ∈ (Shape.Change.setCenter (scaled.project .pose)).operands, u ∈ held.tail :=
      List.forall_mem_singleton.mpr (by simp [held])
    rw [← hchange]
    exact .shape (.change _ List.mem_cons_self hpose trivial)
  have hsession : Session .unitRotations held :=
    Session.start
      |>.step (.cartesian (.identity ..))
      |>.step hturn
      |>.step hscale
      |>.step (.projection (.project .pose List.mem_cons_self))
      |>.step (.shape (.new ..))
      |>.step hcenter
  obtain ⟨hstates, -, hshapes, -⟩ := orientations_stay_unit hsession
  have hmem : .cartesian scaled ∈ held := by simp [held]
  exact ⟨scaled, shape, held, hnorm, congrArg Prod.fst hturned, hscaled, hshape, hsession, hmem,
    List.mem_cons_self, hstates scaled hmem, hshapes shape List.mem_cons_self⟩

end Kinematics
