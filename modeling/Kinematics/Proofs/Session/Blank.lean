import Kinematics.Proofs.Cartesian.Confined
import Kinematics.Proofs.Emptiness
import Kinematics.Proofs.Joint.Confined
import Kinematics.Proofs.Session.Invariant
import Kinematics.Proofs.Session.Reads
import Kinematics.Scalar.Binary64

/-!
# Empty states are blank

As long as callers mark no state empty themselves, a state that is empty has all its fields at
identity, or all its numbers at zero.
-/

namespace Kinematics

section Blank
variable {α : Type} [Scalar α]

def CartesianState.Blank (s : CartesianState α) : Prop := s.empty = true → s.values = .identity

def JointState.Blank (s : JointState α) : Prop :=
  s.empty = true → ∀ field, ∀ x ∈ s.values.get field, x = 0

theorem CartesianState.blank_of_filled {s : CartesianState α} (h : s.empty = false) : s.Blank :=
  fun hempty => absurd (h.symm.trans hempty) Bool.false_ne_true

theorem JointState.blank_of_filled {s : JointState α} (h : s.empty = false) : s.Blank :=
  fun hempty => absurd (h.symm.trans hempty) Bool.false_ne_true

theorem CartesianState.Blank.project {s : CartesianState α} (h : s.Blank) (kind : CartesianKind) :
    (s.project kind).general.Blank := by
  intro hempty
  have hvalues : s.values = .identity := h hempty
  change s.values.restrict kind.selection.fields = .identity
  rw [hvalues, CartesianValues.restrict_identity]

theorem JointState.Blank.project {s : JointState α} (h : s.Blank) (field : JointField) :
    (s.project field).general.Blank := by
  intro hempty other x hx
  change x ∈ (s.values.restrict [field]).get other at hx
  rw [JointValues.get_restrict] at hx
  split at hx
  case isTrue => exact h hempty other x hx
  case isFalse =>
    obtain ⟨-, -, rfl⟩ := List.mem_map.mp hx
    rfl

theorem JointState.blank_ofType (type : StateType) (name : String) (names : List String)
    (now : Instant) : (ofType type name names now : JointState α).Blank := by
  intro _ field x hx
  change x ∈ (JointValues.zeros names.length : JointValues α).get field at hx
  rw [JointValues.zeros, JointValues.get_build] at hx
  exact List.eq_of_mem_replicate hx

theorem JointState.eq_zero_of_mem_setZero (s : JointState α) (field : JointField) :
    ∀ x ∈ s.setZero.values.get field, x = 0 := by
  intro x hx
  change x ∈ (s.values.mapFields fun _ xs => xs.map fun _ => 0).get field at hx
  rw [JointValues.mapFields, JointValues.get_build] at hx
  obtain ⟨-, -, rfl⟩ := List.mem_map.mp hx
  rfl

end Blank

section Keeps
variable {α : Type} [Scalar α] {c : Conduct α}

omit [Scalar α] in
theorem eq_false_of_allowed (hc : ¬c.emptiness true) {empty : Bool} (h : c.emptiness empty) :
    empty = false := by
  cases empty with
  | true => exact absurd h hc
  | false => rfl

theorem CartesianState.Change.keeps_blank (hc : ¬c.emptiness true)
    {change : CartesianState.Change α} (hallowed : change.Allowed c) :
    change.edit.Keeps CartesianState.Blank := by
  refine .of_settles fun s hs => (change.settles s).mono fun t ht => ?_
  cases change with
  | setName | setFrame | touch =>
    cases ht
    exact hs
  | setEmpty empty =>
    cases ht
    exact blank_of_filled (eq_false_of_allowed hc hallowed)
  | setZero | clear =>
    cases ht
    exact fun _ => rfl
  | setVector | setOrientation =>
    cases ht
    exact blank_of_filled rfl
  | setOrientationCoefficients q =>
    obtain ⟨u, -, rfl⟩ := ht
    exact blank_of_filled rfl
  | write | multiply | clamp => exact blank_of_filled ht.filled

theorem CartesianProjection.Change.keeps_blank (hc : ¬c.emptiness true) {kind : CartesianKind}
    {change : CartesianProjection.Change α kind} (hallowed : change.Allowed c) :
    change.edit.Keeps fun p => p.general.Blank := by
  refine .of_settles fun p hp => (change.settles p).mono fun q hq => ?_
  cases change with
  | setName | setFrame | touch =>
    cases hq
    exact hp
  | setEmpty empty =>
    cases hq
    exact CartesianState.blank_of_filled (eq_false_of_allowed hc hallowed)
  | setZero | clear =>
    cases hq
    exact fun _ => rfl
  | setPosition | setOrientation | setLinear | setAngular =>
    cases hq
    exact CartesianState.blank_of_filled rfl
  | setOrientationCoefficients w =>
    obtain ⟨u, -, rfl⟩ := hq
    exact CartesianState.blank_of_filled rfl
  | setData | clamp | clampWith => exact CartesianState.blank_of_filled hq.filled

/-- What an allowed change leaves behind, also on a projection. -/
theorem JointState.Change.Leaves.blank (hc : ¬c.emptiness true) {change : JointState.Change α}
    (hallowed : change.Allowed c) {s t : JointState α} (ht : change.Leaves s t) (hs : s.Blank) :
    t.Blank := by
  cases change with
  | setName | touch =>
    cases ht
    exact hs
  | setNames names =>
    obtain ⟨-, rfl⟩ := ht
    exact hs
  | setEmpty empty =>
    cases ht
    exact blank_of_filled (eq_false_of_allowed hc hallowed)
  | setZero | clear =>
    cases ht
    exact fun _ => eq_zero_of_mem_setZero s
  | setValueAt | setValue => exact blank_of_filled ht.filled
  | write | clamp | clampEach | multiply | multiplyEach => exact blank_of_filled ht.filled

theorem JointState.Change.keeps_blank (hc : ¬c.emptiness true) {change : JointState.Change α}
    (hallowed : change.Allowed c) : change.edit.Keeps JointState.Blank :=
  .of_settles fun s hs => (change.settles s).mono fun _ ht => ht.blank hc hallowed hs

theorem JointProjection.Change.keeps_blank (hc : ¬c.emptiness true) {field : JointField}
    {change : JointProjection.Change α} (hallowed : change.Allowed c) :
    (change.edit : Edit α (JointProjection α field) Unit).Keeps fun p => p.general.Blank := by
  have hgeneral : (change.general field).Allowed c := by
    cases change <;> exact hallowed
  exact .of_settles fun p hp => (change.settles p).mono fun _ hq => hq.blank hc hgeneral hp

end Keeps

/-- Empty states of all kinds are blank. -/
def Property.blank {α : Type} [Scalar α] : Property α where
  cartesian s := s.Blank
  projection p := p.general.Blank
  joint s := s.Blank
  jointProjection p := p.general.Blank

namespace Property
variable {α : Type} [Scalar α] {held : List (Value α)} {c : Conduct α}

theorem blank_of_makesCartesian (hc : ¬c.emptiness true) (hheld : ∀ v ∈ held, blank.Holds v)
    {s : CartesianState α} (h : MakesCartesian c held s) : s.Blank := by
  cases h with
  | new => exact fun _ => rfl
  | identity | random => exact CartesianState.blank_of_filled rfl
  | general hp => exact hheld _ hp
  | operate op hs hoperands h =>
    exact CartesianState.blank_of_filled (CartesianState.Operation.filled_of_apply h).2
  | change change hs hallowed =>
    exact CartesianState.Change.keeps_blank hc hallowed _ (hheld _ hs)

theorem blank_of_makesProjection (hc : ¬c.emptiness true) (hheld : ∀ v ∈ held, blank.Holds v)
    {kind : CartesianKind} {p : CartesianProjection α kind} (h : MakesProjection c held p) :
    p.general.Blank := by
  cases h with
  | new => exact fun _ => rfl
  | @project s kind hs =>
    have hs : s.Blank := hheld _ hs
    exact hs.project kind
  | change change hp hallowed =>
    exact CartesianProjection.Change.keeps_blank hc hallowed _ (hheld _ hp)
  | random | identity | ofPosition | ofParts | ofIsometry | zero | ofVectors =>
    exact CartesianState.blank_of_filled rfl
  | operate op hp hoperands h =>
    exact CartesianState.blank_of_filled (CartesianProjection.Operation.filled_of_apply h).2
  | compose now hp hq h =>
    exact CartesianState.blank_of_filled (CartesianPose.filled_of_compose h).2.2
  | differentiatePose dt now hp h =>
    exact CartesianState.blank_of_filled (CartesianPose.filled_of_differentiate h).2
  | integrateTwist dt now ht h =>
    exact CartesianState.blank_of_filled (CartesianTwist.filled_of_integrate h).2
  | differentiateTwist dt now ht h =>
    exact CartesianState.blank_of_filled (CartesianTwist.filled_of_differentiate h).2
  | integrateAcceleration dt now ha h =>
    exact CartesianState.blank_of_filled (CartesianAcceleration.filled_of_integrate h).2
  | poseOfTwist now ht h =>
    exact CartesianState.blank_of_filled (CartesianTwist.filled_of_integrate h).2
  | accelerationOfTwist now ht h =>
    exact CartesianState.blank_of_filled (CartesianTwist.filled_of_differentiate h).2
  | rotation now he h =>
    exact CartesianState.blank_of_filled (Ellipsoid.filled_of_rotation h).2

theorem blank_of_makesJoint (hc : ¬c.emptiness true) (hheld : ∀ v ∈ held, blank.Holds v)
    {s : JointState α} (h : MakesJoint c held s) : s.Blank := by
  cases h with
  | new | withSize => exact JointState.blank_ofType _ _ _ _
  | zero | random => exact JointState.blank_of_filled rfl
  | general hp => exact hheld _ hp
  | operate op hs hoperands h =>
    exact JointState.blank_of_filled (JointState.Operation.filled_of_apply h).2
  | change change hs hallowed =>
    exact JointState.Change.keeps_blank hc hallowed _ (hheld _ hs)

theorem blank_of_makesJointProjection (hc : ¬c.emptiness true)
    (hheld : ∀ v ∈ held, blank.Holds v) {field : JointField} {p : JointProjection α field}
    (h : MakesJointProjection c held p) : p.general.Blank := by
  cases h with
  | new | withSize => exact JointState.blank_ofType _ _ _ _
  | zero | random => exact JointState.blank_of_filled rfl
  | @project s field hs =>
    have hs : s.Blank := hheld _ hs
    exact hs.project field
  | operate op hp hoperands h =>
    exact JointState.blank_of_filled (JointProjection.Operation.filled_of_apply h).2
  | change change hp hallowed =>
    exact JointProjection.Change.keeps_blank hc hallowed _ (hheld _ hp)
  | differentiatePositions dt now hp h =>
    exact JointState.blank_of_filled (JointProjection.filled_of_rateOfChange h).2
  | integrateVelocities dt now hv h =>
    exact JointState.blank_of_filled (JointProjection.filled_of_accumulated h).2
  | differentiateVelocities dt now hv h =>
    exact JointState.blank_of_filled (JointProjection.filled_of_rateOfChange h).2
  | integrateAccelerations dt now ha h =>
    exact JointState.blank_of_filled (JointProjection.filled_of_accumulated h).2

theorem blank_kept (hc : ¬c.emptiness true) : blank.Kept c where
  cartesian hheld h := blank_of_makesCartesian hc hheld h
  projection hheld h := blank_of_makesProjection hc hheld h
  joint hheld h := blank_of_makesJoint hc hheld h
  jointProjection hheld h := blank_of_makesJointProjection hc hheld h

end Property

/-- As long as callers mark no state empty themselves, every empty state of a session is blank. In
sequences of changes only those marked as such make a filled state empty or an empty one filled, a
projection is as empty as its state, and what an operation computes is filled. -/
theorem empty_states_stay_blank {α : Type} [Scalar α] :
    (∀ {c : Conduct α} {held : List (Value α)}, ¬c.emptiness true → Session c held →
      (∀ s : CartesianState α, .cartesian s ∈ held → s.Blank) ∧
      (∀ (kind : CartesianKind) (p : CartesianProjection α kind), .projection p ∈ held →
        p.general.Blank) ∧
      (∀ s : JointState α, .joint s ∈ held → s.Blank) ∧
      ∀ (field : JointField) (p : JointProjection α field), .jointProjection p ∈ held →
        p.general.Blank) ∧
    (EmptinessLaw (·.empty)
        (CartesianState.Change.edit : _ → Edit α (CartesianState α) Unit)
        CartesianState.Change.Empties CartesianState.Change.Fills ∧
      (∀ kind, EmptinessLaw (·.general.empty)
        (CartesianProjection.Change.edit : _ → Edit α (CartesianProjection α kind) Unit)
        CartesianProjection.Change.Empties CartesianProjection.Change.Fills) ∧
      EmptinessLaw (·.empty) (JointState.Change.edit : _ → Edit α (JointState α) Unit)
        JointState.Change.Empties JointState.Change.Fills ∧
      ∀ field, EmptinessLaw (·.general.empty)
        (JointProjection.Change.edit : _ → Edit α (JointProjection α field) Unit)
        JointProjection.Change.Empties JointProjection.Change.Fills) ∧
    ((∀ (s : CartesianState α) (kind : CartesianKind),
        (s.project kind).general.empty = s.empty) ∧
      ∀ (s : JointState α) (field : JointField), (s.project field).general.empty = s.empty) ∧
    ∀ {operands : List (Value α)} {β : Type} {outcome : Except (StateError α) β}
      {computed : β → List (Value α)}, Reads operands outcome computed →
      ∀ x, outcome = .ok x → ∀ v ∈ computed x, v.empty = false := by
  refine ⟨fun hc hsession => ?_, ⟨CartesianState.Change.emptinessLaw,
    CartesianProjection.Change.emptinessLaw, JointState.Change.emptinessLaw,
    JointProjection.Change.emptinessLaw⟩, ⟨fun _ _ => rfl, fun _ _ => rfl⟩,
    fun hreads x hx => (hreads.ofFilled x hx).2⟩
  have hheld := hsession.holds (Property.blank_kept hc)
  exact ⟨fun s hs => hheld (.cartesian s) hs, fun _ p hp => hheld (.projection p) hp,
    fun s hs => hheld (.joint s) hs, fun _ p hp => hheld (.jointProjection p) hp⟩

/-- The twist of a tool whose pose was refused is zero. An arm of one joint is filled by the write
that finds its joint, and a negated identity is filled. -/
theorem empty_states_stay_blank_refused :
    let fresh : CartesianState Float := .new "tool" "base" ⟨0⟩
    let refused := ((CartesianState.Change.write .pose [1, 2]).edit.applyTo fresh).2
    let twist : CartesianTwist Float := refused.project (.screw .twist)
    let arm : JointState Float := .new "arm" ["elbow"] ⟨1⟩
    let changes : List (JointState.Change Float) :=
      [.setValue .torques "wrist" 1, .setZero, .setValue .torques "elbow" 1, .setName "leg"]
    twist.general.values = .identity ∧
    (∃ earlier change later, changes = earlier ++ change :: later ∧
      (runChanges JointState.Change.edit earlier arm).empty = true ∧ change.Fills ∧
      (change.edit.applyTo (runChanges JointState.Change.edit earlier arm)).1 = .ok ()) ∧
    ∃ t, (CartesianState.identity "tool" "base" ⟨2⟩ : CartesianState Float).negate = .ok t ∧
      t.empty = false := by
  intro fresh refused twist arm changes
  obtain ⟨hblank, ⟨-, -, hlaw, -⟩, -, hfilled⟩ := @empty_states_stay_blank Float _
  refine ⟨?_, ?_, ?_⟩
  · let unmarked : Conduct Float := ⟨fun _ => True, (· = false)⟩
    have hsession : Session unmarked [.projection twist, .cartesian refused, .cartesian fresh] :=
      Session.start
        |>.step (.cartesian (.new "tool" "base" ⟨0⟩))
        |>.step (.cartesian (.change (.write .pose [1, 2]) List.mem_cons_self trivial))
        |>.step (.projection (.project (.screw .twist) List.mem_cons_self))
    have hunmarked : ¬unmarked.emptiness true := Bool.noConfusion
    obtain ⟨-, hprojections, -⟩ := hblank hunmarked hsession
    exact hprojections _ twist List.mem_cons_self rfl
  · exact hlaw.filled rfl rfl
  · obtain ⟨t, ht⟩ : ∃ t, (CartesianState.identity "tool" "base" ⟨2⟩ :
      CartesianState Float).negate = .ok t := ⟨_, rfl⟩
    have hreads := ReadsCartesian.operate
      (CartesianState.identity "tool" "base" ⟨2⟩ : CartesianState Float) .negate
    exact ⟨t, ht, hfilled (.cartesian hreads) t ht (.cartesian t) List.mem_cons_self⟩

end Kinematics
