import Kinematics.Proofs.Parameter.Lookup
import Kinematics.Proofs.Parameter.Outcome

/-!
# Consistent parameters and maps

A parameter says of itself whether it holds a value, and of which kind; a map keeps its parameters
under their names. Both stay true whatever is done with parameters and maps.
-/

namespace Kinematics

namespace Parameter
variable {α : Type} {p : Parameter α}

structure Consistent (p : Parameter α) : Prop where
  filled_iff : p.value?.isSome ↔ p.empty = false
  typed {v : ParameterValue α} (h : p.value? = some v) : v.type = p.declared

/-- What can be made of parameters. -/
inductive Built : Parameter α → Prop
  | new (name : String) (type : ParameterType) (now : Instant) : Built (.new name type now)
  | ofValue (name : String) (v : ParameterValue α) (now : Instant) : Built (.ofValue name v now)
  | change {p : Parameter α} (change : Change α) (hp : Built p) : Built (change.edit.applyTo p).2

theorem consistent_new (name : String) (type : ParameterType) (now : Instant) :
    (new name type now : Parameter α).Consistent :=
  ⟨by simp [new, State.new], nofun⟩

theorem consistent_ofValue (name : String) (v : ParameterValue α) (now : Instant) :
    (ofValue name v now).Consistent := by
  refine ⟨by simp [ofValue], ?_⟩
  rintro _ ⟨⟩
  rfl

theorem Change.keeps_consistent (change : Change α) : change.edit.Keeps Consistent := by
  cases change with
  | setName name => exact .modify fun p hp => ⟨hp.filled_iff, hp.typed⟩
  | set v =>
    refine .of_settles fun p _ => (set_settles v).mono ?_
    rintro _ ⟨htype, rfl⟩
    refine ⟨by simp [filled], ?_⟩
    rintro _ ⟨⟩
    exact htype
  | clear => exact .modify fun p _ => ⟨by simp [Parameter.clear], nofun⟩

namespace Built

theorem consistent (h : p.Built) : p.Consistent := by
  induction h with
  | new name type now => exact consistent_new name type now
  | ofValue name v now => exact consistent_ofValue name v now
  | change change _ ih => exact change.keeps_consistent _ ih

theorem filled (h : p.Built) {v : ParameterValue α} (htype : v.type = p.declared) :
    (p.filled v).Built := by
  have hset : ((Change.set v).edit.applyTo p).2 = p.filled v :=
    congrArg Prod.snd (applyTo_set_of_eq htype)
  rw [← hset]
  exact h.change (.set v)

end Built

end Parameter

namespace ParameterMap
variable {α : Type} {m other : ParameterMap α} {p : Parameter α} {name : String}

/-- The entries stand in the order of their names, which are the names of the parameters. -/
structure WellFormed (m : ParameterMap α) : Prop where
  ordered : m.Ordered
  keyed {entry : String × Parameter α} (h : entry ∈ m.entries) : entry.2.name = entry.1
  built {entry : String × Parameter α} (h : entry ∈ m.entries) : entry.2.Built

/-- What can be made of maps and parameters. -/
inductive Built : ParameterMap α → Prop
  | empty : Built .empty
  | ofList {m : ParameterMap α} {ps : List (Parameter α)} (hps : ∀ p ∈ ps, p.Built)
      (h : ofList ps = .ok m) : Built m
  | setParameter {m : ParameterMap α} {p : Parameter α} (hm : Built m) (hp : p.Built) :
      Built ((setParameter p).applyTo m).2
  | setParameters {m : ParameterMap α} {ps : List (Parameter α)} (hm : Built m)
      (hps : ∀ p ∈ ps, p.Built) : Built ((setParameters ps).applyTo m).2
  | setMap {m other : ParameterMap α} (hm : Built m) (hother : Built other) :
      Built ((setMap other).applyTo m).2
  | setValue {m : ParameterMap α} (hm : Built m) (name : String) (v : ParameterValue α)
      (now : Instant) : Built ((setValue name v now).applyTo m).2
  | remove {m : ParameterMap α} (hm : Built m) (name : String) :
      Built ((remove name).applyTo m).2

theorem wellFormed_empty : (empty : ParameterMap α).WellFormed :=
  ⟨ordered_empty, fun h => absurd h List.not_mem_nil, fun h => absurd h List.not_mem_nil⟩

namespace WellFormed

theorem insert (hm : m.WellFormed) (hp : p.Built) (hname : p.name = name) :
    (m.insert name p).WellFormed := by
  refine ⟨hm.ordered.insert name p, fun {entry} hentry => ?_, fun {entry} hentry => ?_⟩
  · obtain rfl | hentry := mem_insertEntry hentry
    · exact hname
    · exact hm.keyed hentry
  · obtain rfl | hentry := mem_insertEntry hentry
    · exact hp
    · exact hm.built hentry

theorem erase (hm : m.WellFormed) (name : String) : (m.erase name).WellFormed where
  ordered := hm.ordered.erase name
  keyed h := hm.keyed (List.mem_filter.mp h).1
  built h := hm.built (List.mem_filter.mp h).1

theorem mem_of_find? (hm : m.WellFormed) (h : m.find? name = some p) : (name, p) ∈ m.entries :=
  hm.ordered.find?_eq_some_iff.mp h

theorem name_of_find? (hm : m.WellFormed) (h : m.find? name = some p) : p.name = name :=
  hm.keyed (hm.mem_of_find? h)

theorem built_of_find? (hm : m.WellFormed) (h : m.find? name = some p) : p.Built :=
  hm.built (hm.mem_of_find? h)

theorem built_of_mem_toList (hm : m.WellFormed) (h : p ∈ m.toList) : p.Built := by
  obtain ⟨entry, hentry, rfl⟩ := List.mem_map.mp h
  exact hm.built hentry

end WellFormed

section Keeps

theorem setParameter_keeps_wellFormed (hp : p.Built) :
    (setParameter p).Keeps WellFormed := by
  refine .of_settles fun m hm => (setParameter_settles p).mono ?_
  rintro _ rfl
  exact hm.insert hp rfl

theorem setParameters_keeps_wellFormed {ps : List (Parameter α)}
    (hps : ∀ p ∈ ps, p.Built) : (setParameters ps).Keeps WellFormed :=
  .forM fun p hp => setParameter_keeps_wellFormed (hps p hp)

theorem setMap_keeps_wellFormed (hother : other.WellFormed) : (setMap other).Keeps WellFormed :=
  setParameters_keeps_wellFormed fun _ hp => hother.built_of_mem_toList hp

theorem setValue_keeps_wellFormed (name : String) (v : ParameterValue α) (now : Instant) :
    (setValue name v now).Keeps WellFormed := by
  intro m hm
  cases hfound : m.find? name with
  | none =>
    rw [applyTo_setValue_of_none now hfound]
    exact hm.insert (.ofValue name v now) rfl
  | some p =>
    have hname : p.name = name := hm.name_of_find? hfound
    by_cases htype : v.type = p.declared
    · rw [applyTo_setValue_of_eq now hfound htype]
      exact hm.insert ((hm.built_of_find? hfound).filled htype) hname
    · rwa [applyTo_setValue_of_ne now hfound htype]

theorem remove_keeps_wellFormed (name : String) :
    (remove name : Edit α (ParameterMap α) (Parameter α)).Keeps WellFormed := by
  intro m hm
  cases hfound : m.find? name with
  | none => rwa [applyTo_remove_of_none hfound]
  | some p =>
    rw [applyTo_remove_of_some hfound]
    exact hm.erase name

end Keeps

theorem wellFormed_of_ofList {ps : List (Parameter α)} (hps : ∀ p ∈ ps, p.Built)
    (h : ofList ps = .ok m) : m.WellFormed :=
  (setParameters_keeps_wellFormed hps).onCopy wellFormed_empty h

theorem Built.wellFormed (h : m.Built) : m.WellFormed := by
  induction h with
  | empty => exact wellFormed_empty
  | ofList hps h => exact wellFormed_of_ofList hps h
  | setParameter _ hp ih => exact setParameter_keeps_wellFormed hp _ ih
  | setParameters _ hps ih => exact setParameters_keeps_wellFormed hps _ ih
  | setMap _ _ ih ihother => exact setMap_keeps_wellFormed ihother _ ih
  | setValue _ name v now ih => exact setValue_keeps_wellFormed name v now _ ih
  | remove _ name ih => exact remove_keeps_wellFormed name _ ih

end ParameterMap
end Kinematics
