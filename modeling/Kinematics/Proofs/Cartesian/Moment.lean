import Kinematics.Proofs.Cartesian.Bracketing

/-!
# Torques of chains

A composition reads the torque of its second state as the moment about that state's own origin
and yields a moment about the origin of the reference frame. Hence a chain composed from the
outermost frame inwards counts every force once, and any other order counts some of them twice.
-/

namespace Kinematics

namespace CartesianValues
open CartesianState (composeValues)

section
variable {α : Type} [Scalar α]

/-- The load of `b`, placed in the frame `a`, as a moment about the origin of the reference frame
of `a`: its own torque and its force at its position. -/
def placedMoment (a b : CartesianValues α) : Vector3 α :=
  a.orientation.rotate b.torque +
    (composeValues a b).position.cross (a.orientation.rotate b.force)

/-- The placed moments of all further links of a chain that starts with `a`. -/
def placedMoments : CartesianValues α → List (CartesianValues α) → Vector3 α
  | _, [] => 0
  | a, b :: rest => placedMoment a b + placedMoments (composeValues a b) rest

/-- What the inner of two nested compositions has moved to its own origin and the outer one moves
again, expressed in the reference frame of `b`. -/
def countedTwice (b c : CartesianValues α) : Vector3 α :=
  (composeValues b c).position.cross (b.orientation.rotate c.force) +
    (b.orientation.rotate c.position).cross b.force

end

theorem torque_foldl_compose (a : CartesianValues ℝ) (rest : List (CartesianValues ℝ)) :
    (rest.foldl composeValues a).torque = a.torque + placedMoments a rest := by
  induction rest generalizing a with
  | nil => simp [placedMoments]
  | cons b rest ih =>
    rw [List.foldl_cons, ih, placedMoments, torque_compose, placedMoment]
    abel

theorem torque_compose_compose {a b : CartesianValues ℝ} (ha : a.orientation.IsRotation)
    (hb : b.orientation.IsRotation) (c : CartesianValues ℝ) :
    (composeValues a (composeValues b c)).torque =
      (composeValues (composeValues a b) c).torque + a.orientation.rotate (countedTwice b c) := by
  simp only [torque_compose, position_compose, force_compose, countedTwice,
    rotate_compose ha hb, Quaternion.rotate_add, Quaternion.rotate_cross ha, Vector3.cross_add,
    Vector3.add_cross]
  abel

theorem torque_identity_compose (b : CartesianValues ℝ) :
    (composeValues identity b).torque = b.torque + b.position.cross b.force := by
  simp [torque_compose, position_compose]

end CartesianValues

/-- The chain that is composed from the outermost frame inwards. -/
def Bracketing.inwards {α : Type} (a : CartesianState α)
    (rest : List (CartesianState α × Instant)) : Bracketing α :=
  rest.foldl (fun t link => .compose t (.state link.1) link.2) (.state a)

namespace Bracketing
variable {α : Type}

private theorem states_foldl (t : Bracketing α) (rest : List (CartesianState α × Instant)) :
    (rest.foldl (fun t link => compose t (.state link.1) link.2) t).states =
      t.states ++ rest.map Prod.fst := by
  induction rest generalizing t with
  | nil => simp
  | cons link rest ih => simp [ih, states]

theorem states_inwards (a : CartesianState α) (rest : List (CartesianState α × Instant)) :
    (inwards a rest).states = a :: rest.map Prod.fst :=
  states_foldl (.state a) rest

variable [Scalar α]

private theorem values_foldl (t : Bracketing α) (rest : List (CartesianState α × Instant)) :
    (rest.foldl (fun t link => compose t (.state link.1) link.2) t).values =
      (rest.map (·.1.values)).foldl CartesianState.composeValues t.values := by
  induction rest generalizing t with
  | nil => rfl
  | cons link rest ih => exact ih _

theorem values_inwards (a : CartesianState α) (rest : List (CartesianState α × Instant)) :
    (inwards a rest).values =
      (rest.map (·.1.values)).foldl CartesianState.composeValues a.values :=
  values_foldl (.state a) rest

end Bracketing

/-- A force at the tip of an arm has the moment one about the base. Composed from the inside out
it is counted twice, also where all that is composed from outside is an identity. -/
theorem torque_depends_on_bracketing :
    let base : CartesianState ℝ := .identity "base" "world" ⟨0⟩
    let arm : CartesianState ℝ :=
      (CartesianState.identity "arm" "base" ⟨0⟩).setVector .position ⟨1, 0, 0⟩
    let push : CartesianState ℝ :=
      (CartesianState.identity "push" "arm" ⟨0⟩).setVector .force ⟨0, 1, 0⟩
    ∃ pushOnBase x y, arm.compose push ⟨1⟩ = .ok pushOnBase ∧
      base.compose pushOnBase ⟨2⟩ = .ok y ∧
      (do (← base.compose arm ⟨3⟩).compose push ⟨4⟩) = .ok x ∧
      pushOnBase.values.torque = ⟨0, 0, 1⟩ ∧ y.values.torque = ⟨0, 0, 2⟩ ∧
      x.values.torque = ⟨0, 0, 1⟩ ∧ x.values.torque ≠ y.values.torque ∧
      y.values.torque ≠ pushOnBase.values.torque := by
  intro base arm push
  have hbase : base.values = .identity := rfl
  have harm : arm.values = { CartesianValues.identity with position := ⟨1, 0, 0⟩ } := rfl
  have hpush : push.values = { CartesianValues.identity with force := ⟨0, 1, 0⟩ } := rfl
  have hinner : (CartesianState.composeValues arm.values push.values).torque = ⟨0, 0, 1⟩ := by
    rw [CartesianValues.torque_compose, CartesianValues.position_compose, harm, hpush]
    ext <;> simp [Vector3.cross]
  have hwhole : (CartesianState.composeValues base.values
      (CartesianState.composeValues arm.values push.values)).torque = ⟨0, 0, 2⟩ := by
    rw [hbase, CartesianValues.torque_identity_compose, hinner,
      CartesianValues.position_compose, CartesianValues.force_compose, harm, hpush]
    ext <;> simp [Vector3.cross]
    norm_num
  have houter : (CartesianState.composeValues
      (CartesianState.composeValues base.values arm.values) push.values).torque = ⟨0, 0, 1⟩ := by
    have hrotate := CartesianValues.rotate_compose (a := base.values) (b := arm.values)
      .identity .identity
    rw [CartesianValues.torque_compose, CartesianValues.position_compose, hrotate, hrotate, hrotate,
      CartesianValues.torque_compose, CartesianValues.position_compose, hbase, harm, hpush]
    ext <;> simp [Vector3.cross]
  have hchain : Composable [base, arm, push] :=
    composable_three.mpr ⟨⟨rfl, rfl, rfl⟩, rfl, rfl⟩
  obtain ⟨x, hx, hvalues⟩ := Bracketing.exists_outerFirst hchain ⟨3⟩ ⟨4⟩
  rw [← hvalues] at houter
  refine ⟨_, x, _, CartesianState.compose_eq_ok_iff.mpr ⟨rfl, rfl, rfl, rfl⟩,
    CartesianState.compose_eq_ok_iff.mpr ⟨rfl, rfl, rfl, rfl⟩, hx, hinner, hwhole, houter, ?_, ?_⟩
  · rw [houter]
    exact fun h => by simpa using (congrArg Vector3.z (h.trans hwhole))
  · exact fun h => by simpa using (congrArg Vector3.z (hwhole.symm.trans (h.trans hinner)))

/-- Composed from the outermost frame inwards, a chain has the moment of all its loads about the
origin of the reference frame. Another order of three links adds the moments that are counted
twice, and composing an identity from outside adds the moment of the force at its position. -/
theorem torque_of_chain :
    (∀ (a : CartesianState ℝ) (rest : List (CartesianState ℝ × Instant)),
      Composable (a :: rest.map Prod.fst) →
      ∃ x, (Bracketing.inwards a rest).evaluate = .ok x ∧
        x.values.torque =
          a.values.torque + a.values.placedMoments (rest.map (·.1.values))) ∧
    (∀ a b c : CartesianState ℝ, Composable [a, b, c] → a.values.orientation.IsRotation →
      b.values.orientation.IsRotation → ∀ t₁ t₂ t₃ t₄ : Instant,
      ∃ x y, (do (← a.compose b t₁).compose c t₂) = .ok x ∧
        (do a.compose (← b.compose c t₃) t₄) = .ok y ∧
        y.values.torque =
          x.values.torque + a.values.orientation.rotate (b.values.countedTwice c.values) ∧
        (y.values.torque = x.values.torque ↔ b.values.countedTwice c.values = 0)) ∧
    ∀ b : CartesianState ℝ, b.empty = false → ∀ (frame : String) (t₁ t₂ : Instant),
      ∃ x, (CartesianState.identity b.frame frame t₁).compose b t₂ = .ok x ∧
        x.values.torque = b.values.torque + b.values.position.cross b.values.force ∧
        (x.values.torque = b.values.torque ↔ b.values.position.cross b.values.force = 0) := by
  refine ⟨?_, ?_, ?_⟩
  · intro a rest hchain
    rw [← Bracketing.states_inwards, ← Bracketing.evaluate_filled_iff] at hchain
    obtain ⟨x, hx, -⟩ := hchain
    refine ⟨x, hx, ?_⟩
    rw [Bracketing.values_evaluate hx, Bracketing.values_inwards,
      CartesianValues.torque_foldl_compose]
  · intro a b c hchain ha hb t₁ t₂ t₃ t₄
    obtain ⟨x, hx, hxvalues⟩ := Bracketing.exists_outerFirst hchain t₁ t₂
    obtain ⟨y, hy, hyvalues⟩ := Bracketing.exists_innerFirst hchain t₃ t₄
    have htorque : y.values.torque =
        x.values.torque + a.values.orientation.rotate (b.values.countedTwice c.values) := by
      rw [hxvalues, hyvalues]
      exact CartesianValues.torque_compose_compose ha hb c.values
    refine ⟨x, y, hx, hy, htorque, ?_⟩
    rw [htorque, add_eq_left, Quaternion.rotate_eq_zero_iff ha]
  · intro b hb frame t₁ t₂
    have htorque := CartesianValues.torque_identity_compose b.values
    exact ⟨_, CartesianState.compose_eq_ok_iff.mpr ⟨rfl, hb, rfl, rfl⟩, htorque,
      by rw [← add_eq_left, ← htorque]; rfl⟩

theorem torque_of_chain_lever :
    let base : CartesianState ℝ := .identity "base" "world" ⟨0⟩
    let arm : CartesianState ℝ :=
      (CartesianState.identity "arm" "base" ⟨0⟩).setVector .position ⟨1, 0, 0⟩
    let push : CartesianState ℝ :=
      (CartesianState.identity "push" "arm" ⟨0⟩).setVector .force ⟨0, 1, 0⟩
    (∃ x, (Bracketing.inwards base [(arm, ⟨1⟩), (push, ⟨2⟩)]).evaluate = .ok x ∧
      x.values.torque =
        base.values.torque + base.values.placedMoments [arm.values, push.values]) ∧
    (∃ x y, (do (← base.compose arm ⟨1⟩).compose push ⟨2⟩) = .ok x ∧
      (do base.compose (← arm.compose push ⟨3⟩) ⟨4⟩) = .ok y ∧
      y.values.torque =
        x.values.torque + base.values.orientation.rotate (arm.values.countedTwice push.values)) ∧
    ∃ x, (CartesianState.identity push.frame "base" ⟨1⟩).compose push ⟨2⟩ = .ok x ∧
      x.values.torque = push.values.torque + push.values.position.cross push.values.force := by
  intro base arm push
  have hchain : Composable [base, arm, push] :=
    composable_three.mpr ⟨⟨rfl, rfl, rfl⟩, rfl, rfl⟩
  obtain ⟨hinwards, hthree, hidentity⟩ := torque_of_chain
  refine ⟨hinwards base [(arm, ⟨1⟩), (push, ⟨2⟩)] hchain, ?_, ?_⟩
  · obtain ⟨x, y, hx, hy, htorque, -⟩ :=
      hthree base arm push hchain .identity .identity ⟨1⟩ ⟨2⟩ ⟨3⟩ ⟨4⟩
    exact ⟨x, y, hx, hy, htorque⟩
  · obtain ⟨x, hx, htorque, -⟩ := hidentity push rfl "base" ⟨1⟩ ⟨2⟩
    exact ⟨x, hx, htorque⟩

end Kinematics
