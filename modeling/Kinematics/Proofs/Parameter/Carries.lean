import Kinematics.Parameter.Map
import Kinematics.Proofs.Edit

/-!
# What parameters carry

A property of values that holds of all values put into parameters and maps holds of all values
found in them.
-/

namespace Kinematics

theorem ParameterValue.as?_eq_some_iff {α : Type} {v : ParameterValue α} {type : ParameterType}
    {x : type.Payload α} : v.as? type = some x ↔ v = ⟨type, x⟩ := by
  constructor
  · intro h
    unfold as? at h
    split at h
    case isTrue htype =>
      subst htype
      cases h
      rfl
    case isFalse => cases h
  · rintro rfl
    exact as?_mk type x

namespace Parameter
variable {α : Type} {Q : ParameterValue α → Prop} {p : Parameter α}

/-- Its value, if there is one, has the property. -/
def Carries (Q : ParameterValue α → Prop) (p : Parameter α) : Prop := ∀ v, p.value? = some v → Q v

theorem carries_new (name : String) (type : ParameterType) (now : Instant) :
    (new name type now : Parameter α).Carries Q := nofun

theorem carries_ofValue {v : ParameterValue α} (hv : Q v) (name : String) (now : Instant) :
    (ofValue name v now).Carries Q := by
  rintro _ ⟨⟩
  exact hv

theorem set_keeps_carries {v : ParameterValue α} (hv : Q v) : (set v).Keeps (Carries Q) := by
  refine .get_bind fun p _ => .ite (.throw_bind _ _) (.set ?_)
  rintro _ ⟨⟩
  exact hv

namespace Carries

theorem value (hp : p.Carries Q) {v : ParameterValue α} (h : p.value = .ok v) : Q v := by
  unfold Parameter.value at h
  split at h
  case h_1 hvalue =>
    cases h
    exact hp _ hvalue
  case h_2 => cases h

theorem get (hp : p.Carries Q) {type : ParameterType} {x : type.Payload α}
    (h : p.get type = .ok x) : Q ⟨type, x⟩ := by
  obtain ⟨v, hv, h⟩ := exists_of_bind_eq_ok h
  split at h
  case h_1 hpayload =>
    cases h
    rw [← ParameterValue.as?_eq_some_iff.mp hpayload]
    exact hp.value hv
  case h_2 => cases h

end Carries
end Parameter

namespace ParameterMap
variable {α : Type} {Q : ParameterValue α → Prop} {m : ParameterMap α} {p : Parameter α}

/-- All its parameters carry values with the property. -/
def Carries (Q : ParameterValue α → Prop) (m : ParameterMap α) : Prop :=
  ∀ entry ∈ m.entries, entry.2.Carries Q

theorem mem_insertEntry {name : String} {entries : List (String × Parameter α)}
    {entry : String × Parameter α} (h : entry ∈ insertEntry name p entries) :
    entry = (name, p) ∨ entry ∈ entries := by
  induction entries with
  | nil => exact .inl (List.mem_singleton.mp h)
  | cons first rest ih =>
    rw [insertEntry] at h
    split at h
    · exact List.mem_cons.mp h
    · split at h
      · exact (List.mem_cons.mp h).imp_right (List.mem_cons_of_mem _)
      · obtain rfl | h := List.mem_cons.mp h
        · exact .inr List.mem_cons_self
        · exact (ih h).imp_right (List.mem_cons_of_mem _)

theorem carries_empty : (empty : ParameterMap α).Carries Q :=
  fun _ h => absurd h List.not_mem_nil

namespace Carries

theorem insert (hm : m.Carries Q) (hp : p.Carries Q) (name : String) :
    (m.insert name p).Carries Q := by
  intro entry hentry
  obtain rfl | hentry := mem_insertEntry hentry
  · exact hp
  · exact hm entry hentry

theorem erase (hm : m.Carries Q) (name : String) : (m.erase name).Carries Q :=
  fun entry hentry => hm entry (List.mem_filter.mp hentry).1

theorem find? (hm : m.Carries Q) {name : String} (h : m.find? name = some p) : p.Carries Q := by
  obtain ⟨before, after, hentries, -⟩ := List.lookup_eq_some_iff.mp h
  exact hm (name, p) (by rw [hentries]; simp)

theorem toList (hm : m.Carries Q) (hp : p ∈ m.toList) : p.Carries Q := by
  obtain ⟨entry, hentry, rfl⟩ := List.mem_map.mp hp
  exact hm entry hentry

theorem parameter (hm : m.Carries Q) {name : String} (h : m.parameter name = .ok p) :
    p.Carries Q := by
  unfold ParameterMap.parameter at h
  split at h
  case h_1 hfound =>
    cases h
    exact hm.find? hfound
  case h_2 => cases h

theorem value (hm : m.Carries Q) {name : String} {type : ParameterType} {x : type.Payload α}
    (h : m.value name type = .ok x) : Q ⟨type, x⟩ := by
  obtain ⟨p, hp, h⟩ := exists_of_bind_eq_ok h
  exact (hm.parameter hp).get h

end Carries

section Keeps

theorem setParameter_keeps_carries (hp : p.Carries Q) : (setParameter p).Keeps (Carries Q) := by
  have hinsert : (modify (·.insert p.name p) : Edit α (ParameterMap α) Unit).Keeps (Carries Q) :=
    .modify fun m hm => hm.insert hp p.name
  refine .get_bind fun m _ => ?_
  split
  · exact .ite (.throw_bind _ _) hinsert
  · exact hinsert

theorem setParameters_keeps_carries {ps : List (Parameter α)} (hps : ∀ p ∈ ps, p.Carries Q) :
    (setParameters ps).Keeps (Carries Q) :=
  .forM fun p hp => setParameter_keeps_carries (hps p hp)

theorem setMap_keeps_carries {other : ParameterMap α} (hother : other.Carries Q) :
    (setMap other).Keeps (Carries Q) :=
  setParameters_keeps_carries fun _ hp => hother.toList hp

theorem setValue_keeps_carries {v : ParameterValue α} (hv : Q v) (name : String) (now : Instant) :
    (setValue name v now).Keeps (Carries Q) := by
  refine .get_bind fun m hm => ?_
  split
  case h_1 p hfound =>
    refine .liftM_bind fun q hq => .modify fun _ hafter => hafter.insert ?_ name
    exact (Parameter.set_keeps_carries hv).onCopy (hm.find? hfound) hq
  case h_2 => exact setParameter_keeps_carries (Parameter.carries_ofValue hv name now)

theorem remove_keeps_carries (name : String) :
    (remove name : Edit α (ParameterMap α) (Parameter α)).Keeps (Carries Q) :=
  .get_bind fun _ _ => .liftM_bind fun p _ =>
    .bind (.modify fun _ hm => hm.erase name) fun _ => .pure p

/-- The parameter that is taken out is the one that a look-up finds. -/
theorem result_remove (name : String) (m : ParameterMap α) :
    ((remove name).applyTo m).1 = m.parameter name := by
  unfold remove
  rw [Edit.applyTo_bind, Edit.applyTo_get]
  simp only [Edit.applyTo_bind, Edit.applyTo_liftM]
  cases m.parameter name <;> rfl

theorem carries_of_ofList {ps : List (Parameter α)} (hps : ∀ p ∈ ps, p.Carries Q)
    (h : ofList ps = .ok m) : m.Carries Q :=
  (setParameters_keeps_carries hps).onCopy carries_empty h

end Keeps
end ParameterMap
end Kinematics
