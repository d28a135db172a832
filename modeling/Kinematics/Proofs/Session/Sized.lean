import Kinematics.Proofs.Joint.Fits
import Kinematics.Proofs.Session.Invariant
import Kinematics.Scalar.Binary64

/-!
# No access is out of range

Whatever is done with joint states and their projections, they have as many numbers as joint names
in each field. Strict accesses therefore never fail, and what does not fit is refused.
-/

namespace Kinematics

/-- Joint states have one number per joint in each field; nothing is asked of Cartesian states. -/
def Property.sized {α : Type} : Property α where
  cartesian _ := True
  projection _ := True
  joint s := s.Sized
  jointProjection p := p.general.Sized

namespace Property
variable {α : Type} [Scalar α] {held : List (Value α)}

theorem sized_of_makesJoint {c : Conduct α} (hheld : ∀ v ∈ held, sized.Holds v) {s : JointState α}
    (h : MakesJoint c held s) : s.Sized := by
  have hsized {s : JointState α} (hs : .joint s ∈ held) : s.Sized := hheld (.joint s) hs
  cases h with
  | new name names now => exact .ofType .jointState name names now
  | withSize name joints now => exact .ofType .jointState name _ now
  | zero name names now => exact .ofType .jointState name names now
  | random g name names now => exact .random name names now g
  | general hp => exact hheld _ hp
  | operate op hs hoperands h =>
    exact op.sized_of_apply (hsized hs) (fun o ho => hsized (hoperands o ho)) h
  | @change s change hs hallowed => exact change.keeps_sized s (hsized hs)

theorem sized_of_makesJointProjection {c : Conduct α} (hheld : ∀ v ∈ held, sized.Holds v)
    {field : JointField} {p : JointProjection α field} (h : MakesJointProjection c held p) :
    p.general.Sized := by
  have hsized {field : JointField} {p : JointProjection α field}
      (hp : .jointProjection p ∈ held) : p.general.Sized := hheld (.jointProjection p) hp
  cases h with
  | new field name names now => exact JointProjection.sized_new field name names now
  | withSize field name joints now => exact JointProjection.sized_new field name _ now
  | zero field name names now => exact JointProjection.sized_new field name names now
  | random g field name names now => exact .project (.random name names now g) field
  | @project s field hs =>
    have hs : s.Sized := hheld _ hs
    exact hs.project field
  | operate op hp hoperands h =>
    exact op.sized_of_apply (hsized hp) (fun o ho => hsized (hoperands o ho)) h
  | @change _ p change hp hallowed => exact change.keeps_sized p (hsized hp)
  | differentiatePositions dt now hp h => exact JointProjection.sized_of_rateOfChange h
  | integrateVelocities dt now hv h => exact JointProjection.sized_of_accumulated h
  | differentiateVelocities dt now hv h => exact JointProjection.sized_of_rateOfChange h
  | integrateAccelerations dt now ha h => exact JointProjection.sized_of_accumulated h

theorem sized_kept (c : Conduct α) : sized.Kept c where
  cartesian _ _ := trivial
  projection _ _ := trivial
  joint hheld h := sized_of_makesJoint hheld h
  jointProjection hheld h := sized_of_makesJointProjection hheld h

end Property

section Guarded
variable {α : Type} [Scalar α] {held : List (Value α)}

/-- What any operation does with the state and held ones, its accesses all fit; and input that does
not fit is refused. -/
structure JointState.Guarded (held : List (Value α)) (s : JointState α) : Prop where
  change (change : Change α) : change.strict.Follows change.edit s
  operation {op : Operation α} (h : ∀ o ∈ op.operands, .joint o ∈ held) :
    (op.strict s).Follows (op.apply s)
  query {query : Query α} (h : ∀ o ∈ query.operands, .joint o ∈ held) :
    (query.strict s).Follows (query.answer s)
  change_refused {change : Change α} (h : ¬change.Fits s) :
    ∃ e, change.edit.applyTo s = (.error e, s)
  operation_refused {op : Operation α} (h : ¬op.Fits s) : ∃ e, op.apply s = .error e
  query_refused {query : Query α} (h : ¬query.Fits s) : ∃ e, query.answer s = .error e

/-- The same of a projection, also over time. -/
structure JointProjection.Guarded (held : List (Value α)) {field : JointField}
    (p : JointProjection α field) : Prop where
  general : p.general.Guarded held
  change (change : Change α) :
    (change.strict : StrictEdit α (JointProjection α field) Unit).Follows change.edit p
  operation {op : Operation α field} (h : ∀ o ∈ op.operands, .jointProjection o ∈ held) :
    (op.strict p).Follows (op.apply p)
  rateOfChange (target : JointField) (dt : Duration) (now : Instant) :
    (p.strictRateOfChange target dt now).Follows (p.rateOfChange target dt now)
  accumulated (target : JointField) (dt : Duration) (now : Instant) :
    (p.strictAccumulated target dt now).Follows (p.accumulated target dt now)
  change_refused {change : Change α} (h : ¬(change.general field).Fits p.general) :
    ∃ e, change.edit.applyTo p = (.error e, p)
  operation_refused {op : Operation α field} (h : ¬op.Fits p) : ∃ e, op.apply p = .error e

theorem JointState.guarded_of_sized (hheld : ∀ v ∈ held, Property.sized.Holds v)
    {s : JointState α} (hs : s.Sized) : s.Guarded held where
  change change := change.strict_follows hs
  operation h := Operation.strict_follows hs fun o ho => hheld (.joint o) (h o ho)
  query h := Query.strict_follows hs fun o ho => hheld (.joint o) (h o ho)
  change_refused h := (Change.settles_fits s _).refused h
  operation_refused h := exists_eq_error_of_not (fun _ => Operation.fits_of_apply) h
  query_refused h := exists_eq_error_of_not (fun _ => Query.fits_of_answer hs) h

theorem JointProjection.guarded_of_sized (hheld : ∀ v ∈ held, Property.sized.Holds v)
    {field : JointField} {p : JointProjection α field} (hp : p.general.Sized) :
    p.Guarded held where
  general := JointState.guarded_of_sized hheld hp
  change change := change.strict_follows hp
  operation h := Operation.strict_follows hp fun o ho => hheld (.jointProjection o) (h o ho)
  rateOfChange := strictRateOfChange_follows
  accumulated := strictAccumulated_follows
  change_refused h := (Change.settles_fits p _).refused h
  operation_refused h := exists_eq_error_of_not (fun _ => Operation.fits_of_apply) h

end Guarded

/-- Every joint state of a session, and every projection, has as many numbers as joint names in each
field, and no access of an operation on it is out of range. -/
theorem joint_states_stay_sized {α : Type} [Scalar α] {c : Conduct α} {held : List (Value α)}
    (h : Session c held) :
    (∀ s : JointState α, .joint s ∈ held →
      (∀ field, (s.values.get field).length = s.names.length) ∧ s.Guarded held) ∧
    ∀ (field : JointField) (p : JointProjection α field), .jointProjection p ∈ held →
      (∀ other, (p.general.values.get other).length = p.general.names.length) ∧
      p.Guarded held := by
  have hheld := h.holds (Property.sized_kept c)
  refine ⟨fun s hs => ?_, fun field p hp => ?_⟩
  · have hsized : s.Sized := hheld (.joint s) hs
    exact ⟨hsized, JointState.guarded_of_sized hheld hsized⟩
  · have hsized : p.general.Sized := hheld (.jointProjection p) hp
    exact ⟨hsized, JointProjection.guarded_of_sized hheld hsized⟩

/-- A state of two joints refuses a renaming to one name, takes velocities of which one is infinite,
and refuses a write at the index two. Its velocities are held for two seconds, and the positions
that they reach refuse three numbers. -/
theorem joint_states_stay_sized_refused :
    let s : JointState Float := .withSize "arm" 2 ⟨0⟩
    let renamed := ((JointState.Change.setNames ["hip"]).edit.applyTo s).2
    let moving := ((JointState.Change.write .velocities [1, 1 / 0]).edit.applyTo renamed).2
    let velocities : JointVelocities Float := moving.project .velocities
    ∃ (positions : JointPositions Float) (held : List (Value Float)),
      velocities.integrate (.ofSeconds 2 0) ⟨1⟩ = .ok positions ∧ Session .free held ∧
      .joint moving ∈ held ∧ .jointProjection positions ∈ held ∧
      (∀ field, (moving.values.get field).length = moving.names.length) ∧
      (∃ e, (JointState.Change.setValueAt .torques 2 5).edit.applyTo moving = (.error e, moving)) ∧
      (∀ field, (positions.general.values.get field).length = positions.general.names.length) ∧
      ∃ e, (JointProjection.Change.setData [1, 2, 3]).edit.applyTo positions =
        (.error e, positions) := by
  intro s renamed moving velocities
  obtain ⟨positions, hpositions⟩ :
    ∃ positions, velocities.integrate (.ofSeconds 2 0) ⟨1⟩ = .ok positions := ⟨_, rfl⟩
  let held : List (Value Float) := [.jointProjection positions, .jointProjection velocities,
    .joint moving, .joint renamed, .joint s]
  have hsession : Session .free held :=
    Session.start
      |>.step (.joint (.withSize "arm" 2 ⟨0⟩))
      |>.step (.joint (.change (.setNames ["hip"]) List.mem_cons_self trivial))
      |>.step (.joint (.change (.write .velocities [1, 1 / 0]) List.mem_cons_self trivial))
      |>.step (.jointProjection (.project .velocities List.mem_cons_self))
      |>.step (.jointProjection (.integrateVelocities _ _ List.mem_cons_self hpositions))
  obtain ⟨hstates, hprojections⟩ := joint_states_stay_sized hsession
  have hmoving : .joint moving ∈ held := by simp [held]
  obtain ⟨hsized, hguarded⟩ := hstates moving hmoving
  obtain ⟨hreached, hreachedGuarded⟩ := hprojections .positions positions List.mem_cons_self
  have hsize : moving.size = 2 := rfl
  have hindex : ¬(JointState.Change.setValueAt .torques 2 (5 : Float)).Fits moving := by
    simp [JointState.Change.Fits, hsize]
  have hreachedSize : positions.general.size = 2 := by
    cases hpositions
    rfl
  have hdata : ¬((JointProjection.Change.setData [1, 2, 3]).general .positions :
      JointState.Change Float).Fits positions.general := by
    simp [JointProjection.Change.general, JointState.Change.Fits, JointSelection.size,
      hreachedSize]
  exact ⟨positions, held, hpositions, hsession, hmoving, List.mem_cons_self, hsized,
    hguarded.change_refused hindex, hreached, hreachedGuarded.change_refused hdata⟩

end Kinematics
