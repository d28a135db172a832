import Kinematics.Proofs.Edit
import Kinematics.Proofs.Session.Value

/-!
# Outcomes of changes of parameters and maps

What a change of one parameter, or of one entry of a map, returns and leaves behind.
-/

namespace Kinematics

namespace Parameter
variable {α : Type} {p : Parameter α} {v : ParameterValue α}

/-- The parameter with its value replaced. -/
def filled (p : Parameter α) (v : ParameterValue α) : Parameter α :=
  { p with value? := some v, empty := false }

theorem set_settles (v : ParameterValue α) :
    (set v).Settles p fun q => v.type = p.declared ∧ q = p.filled v :=
  .get_bind <| .ite (fun _ => .throw_bind _ _) fun htype =>
    .set ⟨Decidable.not_not.mp htype, rfl⟩

theorem applyTo_set_of_eq (htype : v.type = p.declared) :
    (set v).applyTo p = (.ok (), p.filled v) := by
  unfold set
  rw [Edit.applyTo_bind]
  change (if v.type ≠ p.declared then _ else _ : Edit α (Parameter α) Unit).applyTo p = _
  rw [if_neg (not_not_intro htype)]
  rfl

theorem applyTo_set_of_ne (htype : v.type ≠ p.declared) :
    (set v).applyTo p = (.error (.parameterCannotHold p.name p.declared v.type), p) := by
  unfold set
  rw [Edit.applyTo_bind]
  change (if v.type ≠ p.declared then _ else _ : Edit α (Parameter α) Unit).applyTo p = _
  rw [if_pos htype]
  rfl

end Parameter

namespace ParameterMap
variable {α : Type} {m : ParameterMap α} {p q : Parameter α} {name : String}
  {v : ParameterValue α}

/-- No parameter of the same name is declared with another kind. -/
def Admits (m : ParameterMap α) (p : Parameter α) : Prop :=
  ∀ q, m.find? p.name = some q → q.declared = p.declared

theorem not_admits_iff :
    ¬m.Admits p ↔ ∃ q, m.find? p.name = some q ∧ q.declared ≠ p.declared := by
  simp [Admits]

theorem applyTo_setParameter_of_admits (h : m.Admits p) :
    (setParameter p).applyTo m = (.ok (), m.insert p.name p) := by
  unfold setParameter
  rw [Edit.applyTo_bind, Edit.applyTo_get]
  dsimp only
  cases hfound : m.find? p.name with
  | none => rfl
  | some q =>
    dsimp only
    rw [if_neg (not_not_intro (h q hfound))]
    rfl

theorem applyTo_setParameter_of_ne (hfound : m.find? p.name = some q)
    (htype : q.declared ≠ p.declared) :
    (setParameter p).applyTo m =
      (.error (.parameterCannotBecome p.name q.declared p.declared), m) := by
  unfold setParameter
  rw [Edit.applyTo_bind, Edit.applyTo_get]
  dsimp only
  rw [hfound]
  dsimp only
  rw [if_pos htype]
  rfl

theorem applyTo_setValue_of_eq (now : Instant) (hfound : m.find? name = some p)
    (htype : v.type = p.declared) :
    (setValue name v now).applyTo m = (.ok (), m.insert name (p.filled v)) := by
  unfold setValue
  rw [Edit.applyTo_bind, Edit.applyTo_get]
  dsimp only
  rw [hfound]
  dsimp only
  rw [Edit.onCopy, Parameter.applyTo_set_of_eq htype]
  rfl

theorem applyTo_setValue_of_ne (now : Instant) (hfound : m.find? name = some p)
    (htype : v.type ≠ p.declared) :
    (setValue name v now).applyTo m =
      (.error (.parameterCannotHold p.name p.declared v.type), m) := by
  unfold setValue
  rw [Edit.applyTo_bind, Edit.applyTo_get]
  dsimp only
  rw [hfound]
  dsimp only
  rw [Edit.onCopy, Parameter.applyTo_set_of_ne htype]
  rfl

theorem applyTo_setValue_of_none (now : Instant) (hfound : m.find? name = none) :
    (setValue name v now).applyTo m = (.ok (), m.insert name (.ofValue name v now)) := by
  have hadmits : m.Admits (.ofValue name v now) := by
    intro q hq
    cases hfound.symm.trans hq
  have hdeclared := applyTo_setParameter_of_admits hadmits
  unfold setValue
  rw [Edit.applyTo_bind, Edit.applyTo_get]
  dsimp only
  rw [hfound]
  exact hdeclared

theorem applyTo_remove_of_some (hfound : m.find? name = some p) :
    (remove name).applyTo m = (.ok p, m.erase name) := by
  unfold remove
  rw [Edit.applyTo_bind, Edit.applyTo_get]
  simp only [Edit.applyTo_bind, Edit.applyTo_liftM, parameter, hfound]
  rfl

theorem applyTo_remove_of_none (hfound : m.find? name = none) :
    (remove name).applyTo m = (.error (.unknownParameter name), m) := by
  unfold remove
  rw [Edit.applyTo_bind, Edit.applyTo_get]
  simp only [Edit.applyTo_bind, Edit.applyTo_liftM, parameter, hfound]

theorem setParameter_settles (p : Parameter α) :
    (setParameter p).Settles m fun t => t = m.insert p.name p := by
  by_cases hadmits : m.Admits p
  · exact .inr ⟨_, applyTo_setParameter_of_admits hadmits, rfl⟩
  · obtain ⟨q, hfound, htype⟩ := not_admits_iff.mp hadmits
    exact .inl ⟨_, applyTo_setParameter_of_ne hfound htype⟩

theorem setValue_settles (name : String) (v : ParameterValue α) (now : Instant) :
    (setValue name v now).Settles m fun t => ∃ p, t = m.insert name p := by
  cases hfound : m.find? name with
  | none => exact .inr ⟨_, applyTo_setValue_of_none now hfound, _, rfl⟩
  | some p =>
    by_cases htype : v.type = p.declared
    · exact .inr ⟨_, applyTo_setValue_of_eq now hfound htype, _, rfl⟩
    · exact .inl ⟨_, applyTo_setValue_of_ne now hfound htype⟩

namespace Change

theorem applyTo_remove_of_some (hfound : m.find? name = some p) :
    (remove name : Change α).edit.applyTo m = (.ok (), m.erase name) := by
  change (ParameterMap.remove name >>= fun _ => pure ()).applyTo m = _
  rw [Edit.applyTo_bind, ParameterMap.applyTo_remove_of_some hfound]
  rfl

theorem applyTo_remove_of_none (hfound : m.find? name = none) :
    (remove name : Change α).edit.applyTo m = (.error (.unknownParameter name), m) := by
  change (ParameterMap.remove name >>= fun _ => pure ()).applyTo m = _
  rw [Edit.applyTo_bind, ParameterMap.applyTo_remove_of_none hfound]

theorem remove_settles (name : String) :
    (remove name : Change α).edit.Settles m fun t => t = m.erase name := by
  cases hfound : m.find? name with
  | none => exact .inl ⟨_, applyTo_remove_of_none hfound⟩
  | some p => exact .inr ⟨_, applyTo_remove_of_some hfound, rfl⟩

end Change
end ParameterMap
end Kinematics
