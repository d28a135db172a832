import Kinematics.Proofs.Parameter.Consistent

/-!
# Sequences of changes of a map

What a single change keeps, a sequence of changes keeps: maps stay well formed, names keep their
kinds until they are removed, and names that a change does not mention are left alone.
-/

namespace Kinematics
namespace ParameterMap
variable {α : Type} {m : ParameterMap α} {p q : Parameter α} {name : String}
  {type : ParameterType} {change : Change α} {changes : List (Change α)}

/-- The outcomes of changes in turn and the map after the last. -/
def run (m : ParameterMap α) : List (Change α) → List (Except (StateError α) Unit) × ParameterMap α
  | [] => ([], m)
  | change :: changes =>
      let (outcome, m) := change.edit.applyTo m
      let (outcomes, m) := m.run changes
      (outcome :: outcomes, m)

theorem run_keeps {P : ParameterMap α → Prop} (h : ∀ change ∈ changes, change.edit.Keeps P)
    (hm : P m) : P (m.run changes).2 := by
  induction changes generalizing m with
  | nil => exact hm
  | cons change changes ih =>
    obtain ⟨hchange, hrest⟩ := List.forall_mem_cons.mp h
    exact ih hrest (hchange m hm)

section Built

/-- The parameters and maps that the change is given are built themselves. -/
def Change.Built : Change α → Prop
  | setParameter p => p.Built
  | setParameters ps => ∀ p ∈ ps, p.Built
  | setMap other => other.Built
  | setValue .. | remove _ => True

theorem Change.keeps_wellFormed (h : change.Built) : change.edit.Keeps WellFormed := by
  cases change with
  | setParameter p => exact setParameter_keeps_wellFormed h
  | setParameters ps => exact setParameters_keeps_wellFormed h
  | setMap other => exact setMap_keeps_wellFormed (ParameterMap.Built.wellFormed h)
  | setValue name v now => exact setValue_keeps_wellFormed name v now
  | remove name => exact .bind (remove_keeps_wellFormed name) fun _ => .pure _

theorem WellFormed.run (hm : m.WellFormed) (h : ∀ change ∈ changes, change.Built) :
    (m.run changes).2.WellFormed :=
  run_keeps (fun change hchange => Change.keeps_wellFormed (h change hchange)) hm

end Built

section Kinds

def Declares (name : String) (type : ParameterType) (m : ParameterMap α) : Prop :=
  ∃ p, m.find? name = some p ∧ p.declared = type

theorem Declares.insert (hm : m.Declares name type) {key : String}
    (hkey : key = name → p.declared = type) : (m.insert key p).Declares name type := by
  by_cases hname : name = key
  · subst hname
    exact ⟨p, find?_insert_self m name p, hkey rfl⟩
  · obtain ⟨q, hq, htype⟩ := hm
    exact ⟨q, (find?_insert_of_ne m hname p).trans hq, htype⟩

theorem setParameter_keeps_declares (p : Parameter α) :
    (setParameter p).Keeps (Declares name type) := by
  intro m hm
  by_cases hadmits : m.Admits p
  · rw [applyTo_setParameter_of_admits hadmits]
    refine hm.insert ?_
    rintro rfl
    obtain ⟨q, hq, htype⟩ := hm
    rw [← hadmits q hq, htype]
  · obtain ⟨q, hfound, htype⟩ := not_admits_iff.mp hadmits
    rwa [applyTo_setParameter_of_ne hfound htype]

theorem setParameters_keeps_declares (ps : List (Parameter α)) :
    (setParameters ps).Keeps (Declares name type) :=
  .forM fun p _ => setParameter_keeps_declares p

theorem setValue_keeps_declares (key : String) (v : ParameterValue α) (now : Instant) :
    (setValue key v now).Keeps (Declares name type) := by
  intro m hm
  cases hfound : m.find? key with
  | none =>
    rw [applyTo_setValue_of_none now hfound]
    refine hm.insert ?_
    rintro rfl
    obtain ⟨q, hq, -⟩ := hm
    cases hfound.symm.trans hq
  | some p =>
    by_cases htype : v.type = p.declared
    · rw [applyTo_setValue_of_eq now hfound htype]
      refine hm.insert ?_
      rintro rfl
      obtain ⟨q, hq, htype⟩ := hm
      cases hfound.symm.trans hq
      exact htype
    · rwa [applyTo_setValue_of_ne now hfound htype]

theorem Change.remove_keeps_declares {key : String} (hne : key ≠ name) :
    (remove key : Change α).edit.Keeps (Declares name type) := by
  intro m hm
  cases hfound : m.find? key with
  | none => rwa [applyTo_remove_of_none hfound]
  | some p =>
    rw [applyTo_remove_of_some hfound]
    obtain ⟨q, hq, htype⟩ := hm
    refine ⟨q, ?_, htype⟩
    rw [find?_erase, if_neg (Ne.symm hne), hq]

/-- A name keeps its kind unless it is removed. -/
theorem Change.keeps_declares (h : change ≠ .remove name) :
    change.edit.Keeps (Declares name type) := by
  cases change with
  | setParameter p => exact setParameter_keeps_declares p
  | setParameters ps => exact setParameters_keeps_declares ps
  | setMap other => exact setParameters_keeps_declares other.toList
  | setValue key v now => exact setValue_keeps_declares key v now
  | remove key =>
    apply remove_keeps_declares
    rintro rfl
    exact h rfl

theorem Declares.run (hm : m.Declares name type) (h : .remove name ∉ changes) :
    (m.run changes).2.Declares name type := by
  refine run_keeps (fun change hchange => Change.keeps_declares ?_) hm
  rintro rfl
  exact h hchange

end Kinds

section Others
variable {found : Option (Parameter α)}

/-- The names that the change is about. -/
def Change.names : Change α → List String
  | setParameter p => [p.name]
  | setParameters ps => ps.map (·.name)
  | setMap other => other.toList.map (·.name)
  | setValue name .. => [name]
  | remove name => [name]

theorem setParameter_keeps_others (h : name ≠ p.name) :
    (setParameter p).Keeps fun m => m.find? name = found := by
  refine .of_settles fun m hm => (setParameter_settles p).mono ?_
  rintro _ rfl
  rw [find?_insert_of_ne m h, hm]

theorem setParameters_keeps_others {ps : List (Parameter α)} (h : name ∉ ps.map (·.name)) :
    (setParameters ps).Keeps fun m => m.find? name = found := by
  refine .forM fun p hp => setParameter_keeps_others ?_
  rintro rfl
  exact h (List.mem_map_of_mem hp)

theorem Change.keeps_others (h : name ∉ change.names) :
    change.edit.Keeps fun m => m.find? name = found := by
  cases change with
  | setParameter p => exact setParameter_keeps_others (List.ne_of_not_mem_cons h)
  | setParameters ps => exact setParameters_keeps_others h
  | setMap other => exact setParameters_keeps_others h
  | setValue key v now =>
    refine .of_settles fun m hm => (setValue_settles key v now).mono ?_
    rintro _ ⟨p, rfl⟩
    rw [find?_insert_of_ne m (List.ne_of_not_mem_cons h), hm]
  | remove key =>
    refine .of_settles fun m hm => (remove_settles key).mono ?_
    rintro _ rfl
    rw [find?_erase, if_neg (List.ne_of_not_mem_cons h), hm]

end Others
end ParameterMap
end Kinematics
