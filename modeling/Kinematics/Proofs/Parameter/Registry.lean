import Kinematics.Proofs.Parameter.Batch
import Kinematics.Proofs.Parameter.Run

/-!
# Maps as registries

To its callers a map of parameters is a partial function from names to kinds and optional values.
Every sequence of changes has the outcomes, and leaves behind the answers, that it has on this
function.
-/

namespace Kinematics

/-- A declared kind, and a value if there is one. -/
abbrev Cell (α : Type) := ParameterType × Option (ParameterValue α)

abbrev Registry (α : Type) := String → Option (Cell α)

def Parameter.cell {α : Type} (p : Parameter α) : Cell α := (p.declared, p.value?)

/-- What a map tells of its names. -/
def ParameterMap.registry {α : Type} (m : ParameterMap α) : Registry α :=
  fun name => (m.find? name).map Parameter.cell

namespace Registry
variable {α : Type}

def empty : Registry α := fun _ => none

def update (r : Registry α) (name : String) (cell? : Option (Cell α)) : Registry α :=
  fun asked => if asked = name then cell? else r asked

/-- A name keeps its kind. -/
def put (r : Registry α) (name : String) (cell : Cell α) : Except ErrorKind Unit × Registry α :=
  match r name with
  | some (declared, _) =>
      if declared ≠ cell.1 then (.error .invalidParameter, r) else (.ok (), r.update name cell)
  | none => (.ok (), r.update name cell)

def putAll (r : Registry α) : List (Parameter α) → Except ErrorKind Unit × Registry α
  | [] => (.ok (), r)
  | p :: ps =>
      match r.put p.name p.cell with
      | (.ok _, r) => r.putAll ps
      | refused => refused

/-- Both declare the name, with different kinds. -/
def Conflicts (r other : Registry α) (name : String) : Prop :=
  ∃ c d, r name = some c ∧ other name = some d ∧ c.1 ≠ d.1

open Classical in
/-- Takes over the names before the first one in conflict. -/
noncomputable def merge (r other : Registry α) : Except ErrorKind Unit × Registry α :=
  (if ∃ name, r.Conflicts other name then .error .invalidParameter else .ok (),
    fun name =>
      if ∃ c, ¬name < c ∧ r.Conflicts other c then r name else (other name).or (r name))

def take (r : Registry α) (name : String) : Except ErrorKind Unit × Registry α :=
  match r name with
  | some _ => (.ok (), r.update name none)
  | none => (.error .invalidParameter, r)

/-- The outcome of a change and the registry afterwards. -/
noncomputable def answer (r : Registry α) :
    ParameterMap.Change α → Except ErrorKind Unit × Registry α
  | .setParameter p => r.put p.name p.cell
  | .setParameters ps => r.putAll ps
  | .setMap other => r.merge other.registry
  | .setValue name v _ => r.put name (v.type, some v)
  | .remove name => r.take name

/-- The outcomes of changes in turn and the registry after the last. -/
noncomputable def run (r : Registry α) :
    List (ParameterMap.Change α) → List (Except ErrorKind Unit) × Registry α
  | [] => ([], r)
  | change :: changes =>
      let (outcome, r) := r.answer change
      let (outcomes, r) := r.run changes
      (outcome :: outcomes, r)

end Registry

namespace ParameterMap
variable {α : Type} {m other : ParameterMap α} {p q : Parameter α} {name : String}
  {change : Change α}

section Simulation

theorem registry_eq_some_iff {c : Cell α} :
    m.registry name = some c ↔ ∃ p, m.find? name = some p ∧ p.cell = c :=
  Option.map_eq_some_iff

theorem registry_insert (m : ParameterMap α) (name : String) (p : Parameter α) :
    (m.insert name p).registry = m.registry.update name p.cell := by
  funext asked
  rw [registry, find?_insert, Registry.update]
  by_cases hasked : asked = name
  · rw [if_pos hasked, if_pos hasked]
    rfl
  · rw [if_neg hasked, if_neg hasked]
    rfl

theorem registry_erase (m : ParameterMap α) (name : String) :
    (m.erase name).registry = m.registry.update name none := by
  funext asked
  rw [registry, find?_erase, Registry.update]
  by_cases hasked : asked = name
  · rw [if_pos hasked, if_pos hasked]
    rfl
  · rw [if_neg hasked, if_neg hasked]
    rfl

theorem conflicts_registry (m other : ParameterMap α) :
    m.registry.Conflicts other.registry = m.Conflicts other := by
  funext name
  unfold Registry.Conflicts Conflicts
  simp only [registry_eq_some_iff, eq_iff_iff]
  constructor
  · rintro ⟨_, _, ⟨p, hp, rfl⟩, ⟨q, hq, rfl⟩, hne⟩
    exact ⟨p, q, hp, hq, hne⟩
  · rintro ⟨p, q, hp, hq, hne⟩
    exact ⟨_, _, ⟨p, hp, rfl⟩, ⟨q, hq, rfl⟩, hne⟩

/-- What is seen of the outcome of a change. -/
def seen (outcome : Except (StateError α) Unit × ParameterMap α) :
    Except ErrorKind Unit × Registry α :=
  (outcome.1.mapError StateError.kind, outcome.2.registry)

theorem put_registry_of_none (hfound : m.find? name = none) (c : Cell α) :
    m.registry.put name c = (.ok (), m.registry.update name c) := by
  rw [Registry.put, registry, hfound]
  rfl

theorem put_registry_of_eq (hfound : m.find? name = some q) {c : Cell α}
    (htype : q.declared = c.1) :
    m.registry.put name c = (.ok (), m.registry.update name c) := by
  rw [Registry.put, registry, hfound]
  exact if_neg (not_not_intro htype)

theorem put_registry_of_ne (hfound : m.find? name = some q) {c : Cell α}
    (htype : q.declared ≠ c.1) :
    m.registry.put name c = (.error .invalidParameter, m.registry) := by
  rw [Registry.put, registry, hfound]
  exact if_pos htype

theorem seen_setParameter (m : ParameterMap α) (p : Parameter α) :
    seen ((setParameter p).applyTo m) = m.registry.put p.name p.cell := by
  by_cases hadmits : m.Admits p
  · rw [applyTo_setParameter_of_admits hadmits, seen, registry_insert]
    cases hfound : m.find? p.name with
    | none =>
      rw [put_registry_of_none hfound]
      rfl
    | some q =>
      rw [put_registry_of_eq hfound (hadmits q hfound)]
      rfl
  · obtain ⟨q, hfound, htype⟩ := not_admits_iff.mp hadmits
    rw [applyTo_setParameter_of_ne hfound htype, put_registry_of_ne hfound htype]
    rfl

theorem seen_setParameters (m : ParameterMap α) (ps : List (Parameter α)) :
    seen ((setParameters ps).applyTo m) = m.registry.putAll ps := by
  induction ps generalizing m with
  | nil => rfl
  | cons p ps ih =>
    have hhead := seen_setParameter m p
    rw [setParameters_cons, Edit.applyTo_bind, Registry.putAll, ← hhead]
    generalize (setParameter p).applyTo m = outcome
    obtain ⟨_ | _, t⟩ := outcome
    · rfl
    · exact ih t

theorem seen_setMap (hm : m.WellFormed) (hother : other.WellFormed) :
    seen ((setMap other).applyTo m) = m.registry.merge other.registry := by
  rw [Registry.merge, conflicts_registry]
  by_cases hconflict : ∃ name, m.Conflicts other name
  · obtain ⟨name, hname⟩ := hconflict
    obtain ⟨c, hc, hleast⟩ := exists_least_conflict hother hname
    obtain ⟨e, t, he, ht, -, hfind⟩ := applyTo_setMap_of_conflict hm.ordered hother hc hleast
    rw [ht, seen, if_pos ⟨c, hc⟩]
    refine Prod.ext (congrArg Except.error he) (funext fun name => ?_)
    change (t.find? name).map Parameter.cell = _
    rw [hfind]
    dsimp only
    by_cases hlt : name < c
    -- whatever else conflicts does not come before `c`
    · have hnone : ¬∃ d, ¬name < d ∧ m.Conflicts other d := by
        rintro ⟨d, hnot, hd⟩
        exact hleast d hd (Std.lt_of_le_of_lt (String.not_lt.mp hnot) hlt)
      rw [if_pos hlt, if_neg hnone, Option.map_or]
      rfl
    · rw [if_neg hlt, if_pos ⟨c, hlt, hc⟩]
      rfl
  · have hagree := not_exists.mp hconflict
    obtain ⟨t, ht, -, hfind⟩ := applyTo_setMap_of_agree hm.ordered hother hagree
    rw [ht, seen, if_neg hconflict]
    refine Prod.ext rfl (funext fun name => ?_)
    have hnone : ¬∃ c, ¬name < c ∧ m.Conflicts other c := fun ⟨c, _, hc⟩ => hagree c hc
    dsimp only
    rw [if_neg hnone, registry, hfind, Option.map_or]
    rfl

theorem seen_setValue (m : ParameterMap α) (name : String) (v : ParameterValue α) (now : Instant) :
    seen ((setValue name v now).applyTo m) = m.registry.put name (v.type, some v) := by
  cases hfound : m.find? name with
  | none =>
    rw [applyTo_setValue_of_none now hfound, put_registry_of_none hfound, seen, registry_insert]
    rfl
  | some p =>
    by_cases htype : v.type = p.declared
    · rw [applyTo_setValue_of_eq now hfound htype, put_registry_of_eq hfound htype.symm, seen,
        registry_insert, htype]
      rfl
    · rw [applyTo_setValue_of_ne now hfound htype, put_registry_of_ne hfound (Ne.symm htype)]
      rfl

theorem seen_remove (m : ParameterMap α) (name : String) :
    seen ((Change.remove name : Change α).edit.applyTo m) = m.registry.take name := by
  cases hfound : m.find? name with
  | none =>
    rw [Change.applyTo_remove_of_none hfound, Registry.take, registry, hfound]
    rfl
  | some p =>
    rw [Change.applyTo_remove_of_some hfound, seen, registry_erase, Registry.take]
    simp only [registry, hfound]
    rfl

/-- One change. -/
theorem seen_change (hm : m.WellFormed) (h : change.Built) :
    seen (change.edit.applyTo m) = m.registry.answer change := by
  cases change with
  | setParameter p => exact seen_setParameter m p
  | setParameters ps => exact seen_setParameters m ps
  | setMap other => exact seen_setMap hm (ParameterMap.Built.wellFormed h)
  | setValue name v now => exact seen_setValue m name v now
  | remove name => exact seen_remove m name

/-- All changes of a sequence. -/
theorem seen_run (hm : m.WellFormed) {changes : List (Change α)}
    (h : ∀ change ∈ changes, change.Built) :
    ((m.run changes).1.map (·.mapError StateError.kind), (m.run changes).2.registry) =
      m.registry.run changes := by
  induction changes generalizing m with
  | nil => rfl
  | cons change changes ih =>
    obtain ⟨hchange, hrest⟩ := List.forall_mem_cons.mp h
    have hrun := ih (Change.keeps_wellFormed hchange m hm) hrest
    rw [Registry.run, ← seen_change hm hchange]
    simp only [seen, ← hrun]
    rfl

end Simulation

section Answers

/-- What callers can ask the map, it answers as the registry tells. -/
structure Answers (m : ParameterMap α) (r : Registry α) : Prop where
  contains (name : String) : m.contains name = (r name).isSome
  parameter_of_some {name : String} {c : Cell α} (h : r name = some c) :
    ∃ p, m.parameter name = .ok p ∧ p.name = name ∧ p.cell = c
  parameter_of_none {name : String} (h : r name = none) :
    ∃ e, m.parameter name = .error e ∧ e.kind = .invalidParameter
  removed (name : String) : ((remove name).applyTo m).1 = m.parameter name
  listed (p : Parameter α) : p ∈ m.toList ↔ m.parameter p.name = .ok p
  sorted : m.toList.Pairwise fun p q => p.name < q.name
  value_eq_ok_iff (name : String) (type : ParameterType) (x : type.Payload α) :
    m.value name type = .ok x ↔ r name = some (type, some ⟨type, x⟩)
  value_empty_iff (name : String) (type : ParameterType) :
    (∃ e, m.value name type = .error e ∧ e.kind = .emptyState) ↔
      ∃ declared, r name = some (declared, none)
  value_refused {name : String} {type : ParameterType} {e : StateError α}
    (h : m.value name type = .error e) : e.kind = .emptyState ∨ e.kind = .invalidParameter

theorem parameter_eq_ok_iff : m.parameter name = .ok p ↔ m.find? name = some p := by
  unfold parameter
  cases m.find? name with
  | none => simp
  | some q => simp

theorem registry_of_find? (h : m.find? name = some p) : m.registry name = some p.cell :=
  registry_eq_some_iff.mpr ⟨p, h, rfl⟩

/-- The three answers to the question for a value. -/
theorem WellFormed.value_cases (hm : m.WellFormed) (name : String) (type : ParameterType) :
    (∃ x, m.value name type = .ok x ∧ m.registry name = some (type, some ⟨type, x⟩)) ∨
    (∃ e declared, m.value name type = .error e ∧ e.kind = .emptyState ∧
      m.registry name = some (declared, none)) ∨
    ∃ e, m.value name type = .error e ∧ e.kind = .invalidParameter ∧
      (∀ x, m.registry name ≠ some (type, some ⟨type, x⟩)) ∧
      ∀ declared, m.registry name ≠ some (declared, none) := by
  cases hfound : m.find? name with
  | none =>
    have hnone : m.registry name = none := Option.map_eq_none_iff.mpr hfound
    rw [value_of_none hfound, hnone]
    exact .inr (.inr ⟨_, rfl, rfl, nofun, nofun⟩)
  | some p =>
    rw [value_of_some hfound, registry_of_find? hfound]
    cases hvalue : p.value? with
    | none =>
      rw [Parameter.get_of_none hvalue]
      exact .inr (.inl ⟨_, p.declared, rfl, rfl, by rw [Parameter.cell, hvalue]⟩)
    | some v =>
      have htyped : v.type = p.declared := (hm.built_of_find? hfound).consistent.typed hvalue
      cases hx : v.as? type with
      | some x =>
        rw [Parameter.get_of_as?_some hvalue hx]
        cases ParameterValue.as?_eq_some_iff.mp hx
        exact .inl ⟨x, rfl, by rw [Parameter.cell, hvalue, ← htyped]⟩
      | none =>
        rw [Parameter.get_of_as?_none hvalue hx, Parameter.cell, hvalue]
        refine .inr (.inr ⟨_, rfl, rfl, fun x hcell => ?_, by simp⟩)
        cases hcell
        rw [ParameterValue.as?_mk] at hx
        cases hx

theorem WellFormed.answers (hm : m.WellFormed) : m.Answers m.registry where
  contains name := by
    rw [contains, registry, Option.isSome_map]
  parameter_of_some {name c} h := by
    obtain ⟨p, hp, hc⟩ := registry_eq_some_iff.mp h
    exact ⟨p, parameter_eq_ok_iff.mpr hp, hm.name_of_find? hp, hc⟩
  parameter_of_none {name} h := by
    have hnone : m.find? name = none := Option.map_eq_none_iff.mp h
    refine ⟨.unknownParameter name, ?_, rfl⟩
    rw [parameter, hnone]
  removed name := result_remove name m
  listed p := by
    rw [parameter_eq_ok_iff, hm.find?_eq_some_iff, and_iff_left rfl]
  sorted := hm.pairwise_toList
  value_eq_ok_iff name type x := by
    obtain ⟨y, hy, hcell⟩ | ⟨e, declared, he, -, hcell⟩ | ⟨e, he, -, hne, -⟩ :=
      hm.value_cases name type
    · rw [hy, hcell]
      simp
    · rw [he, hcell]
      simp
    · rw [he]
      simp [hne x]
  value_empty_iff name type := by
    obtain ⟨y, hy, hcell⟩ | ⟨e, declared, he, hkind, hcell⟩ | ⟨e, he, hkind, -, hne⟩ :=
      hm.value_cases name type
    · rw [hy, hcell]
      simp
    · rw [he, hcell]
      simp [hkind]
    · rw [he]
      simp [hkind, hne]
  value_refused {name type e} h := by
    obtain ⟨y, hy, -⟩ | ⟨e', -, he, hkind, -⟩ | ⟨e', he, hkind, -⟩ := hm.value_cases name type
    · cases hy.symm.trans h
    · cases he.symm.trans h
      exact .inl hkind
    · cases he.symm.trans h
      exact .inr hkind

end Answers

section Writes

theorem write_parameter (hfound : m.find? p.name = some q) :
    (((setParameter p).applyTo m).1 = .ok () ↔ q.declared = p.declared) ∧
      (q.declared = p.declared → ((setParameter p).applyTo m).2.find? p.name = some p) := by
  by_cases htype : q.declared = p.declared
  · have hadmits : m.Admits p := by
      intro q' hq'
      cases hfound.symm.trans hq'
      exact htype
    rw [applyTo_setParameter_of_admits hadmits]
    exact ⟨iff_of_true rfl htype, fun _ => find?_insert_self m p.name p⟩
  · rw [applyTo_setParameter_of_ne hfound htype]
    exact ⟨iff_of_false nofun htype, fun h => absurd h htype⟩

theorem write_value (hfound : m.find? name = some q) (v : ParameterValue α) (now : Instant) :
    (((setValue name v now).applyTo m).1 = .ok () ↔ q.declared = v.type) ∧
      (q.declared = v.type →
        ((setValue name v now).applyTo m).2.find? name = some (q.filled v) ∧
        ((setValue name v now).applyTo m).2.value name v.type = .ok v.payload) := by
  by_cases htype : q.declared = v.type
  · rw [applyTo_setValue_of_eq now hfound htype.symm]
    have hafter := find?_insert_self m name (q.filled v)
    refine ⟨iff_of_true rfl htype, fun _ => ⟨hafter, ?_⟩⟩
    rw [value_of_some hafter]
    exact Parameter.get_of_as?_some rfl (ParameterValue.as?_mk v.type v.payload)
  · rw [applyTo_setValue_of_ne now hfound (Ne.symm htype)]
    exact ⟨iff_of_false nofun htype, fun h => absurd h htype⟩

end Writes

/-- From a list of parameters, which may be empty, on, a map has at every change the outcome that the
registry has and answers as the registry does. Keys are the names of consistent parameters. A write
to a present name succeeds if the kinds agree, and then it is what is found; names keep their kinds
until they are removed, and changes leave all names alone but their own. -/
theorem maps_answer_as_registries {α : Type} {ps : List (Parameter α)} {start : ParameterMap α}
    (hps : ∀ p ∈ ps, p.Built) (hstart : ofList ps = .ok start) {changes : List (Change α)}
    (hchanges : ∀ change ∈ changes, change.Built) :
    let m := (start.run changes).2
    let r := (Registry.empty.putAll ps).2.run changes
    (∀ p : Parameter α, p.Built → p.Consistent) ∧
    (∀ entry ∈ m.entries, entry.2.name = entry.1 ∧ entry.2.Consistent) ∧
    (start.run changes).1.map (·.mapError StateError.kind) = r.1 ∧
    m.Answers r.2 ∧
    (∀ p q, m.find? p.name = some q →
      (((setParameter p).applyTo m).1 = .ok () ↔ q.declared = p.declared) ∧
      (q.declared = p.declared → ((setParameter p).applyTo m).2.find? p.name = some p)) ∧
    (∀ name v now q, m.find? name = some q →
      (((setValue name v now).applyTo m).1 = .ok () ↔ q.declared = v.type) ∧
      (q.declared = v.type →
        ((setValue name v now).applyTo m).2.find? name = some (q.filled v) ∧
        ((setValue name v now).applyTo m).2.value name v.type = .ok v.payload)) ∧
    (∀ name q later, m.find? name = some q → .remove name ∉ later →
      ∃ q', (m.run later).2.find? name = some q' ∧ q'.declared = q.declared) ∧
    ∀ (change : Change α) (name : String), name ∉ change.names →
      (change.edit.applyTo m).2.find? name = m.find? name := by
  intro m r
  have hregistry : start.registry = (Registry.empty.putAll ps).2 := by
    have hseen := seen_setParameters empty ps
    rw [Edit.onCopy_eq_ok_iff.mp hstart] at hseen
    exact congrArg Prod.snd hseen
  have hstartWell : start.WellFormed := wellFormed_of_ofList hps hstart
  have hm : m.WellFormed := hstartWell.run hchanges
  have hrun := seen_run hstartWell hchanges
  rw [hregistry] at hrun
  have hanswers : m.Answers r.2 := by
    rw [← congrArg Prod.snd hrun]
    exact hm.answers
  refine ⟨fun p hp => hp.consistent, fun entry hentry => ?_, congrArg Prod.fst hrun, hanswers,
    fun p q hq => write_parameter hq, fun name v now q hq => write_value hq v now,
    fun name q later hq hkept => ?_, fun change name hother => ?_⟩
  · exact ⟨hm.keyed hentry, (hm.built hentry).consistent⟩
  · exact Declares.run ⟨q, hq, rfl⟩ hkept
  · exact Change.keeps_others hother m rfl

/-- A gain is raised, a flag refused in its place, a mode declared without a value, and a batch
written that sets a limit and is refused at another mode. -/
theorem maps_answer_as_registries_refused :
    let gain (x : Float) : ParameterValue Float := ⟨.double, x⟩
    let flag (name : String) : Parameter Float := .ofValue name ⟨.bool, true⟩ ⟨0⟩
    let start : ParameterMap Float := ⟨[("gain", .ofValue "gain" (gain 0.5) ⟨1⟩)]⟩
    let changes : List (Change Float) := [.setValue "gain" (gain 2) ⟨2⟩,
      .setValue "gain" ⟨.bool, true⟩ ⟨3⟩, .setParameter (.new "mode" .string ⟨4⟩),
      .setParameters [flag "limit", flag "mode", flag "off"]]
    let m := (start.run changes).2
    ofList [.ofValue "gain" (gain 0.5) ⟨1⟩] = .ok start ∧ (∀ change ∈ changes, change.Built) ∧
      m.value "gain" .double = .ok (2 : Float) ∧ m.value "limit" .bool = .ok true ∧
      (∃ e, m.value "mode" .string = .error e ∧ e.kind = .emptyState) ∧
      m.contains "off" = false := by
  intro gain flag start changes m
  have hps : ∀ p ∈ [Parameter.ofValue "gain" (gain 0.5) ⟨1⟩], p.Built :=
    List.forall_mem_singleton.mpr (.ofValue ..)
  have hflags : ∀ p ∈ [flag "limit", flag "mode", flag "off"], p.Built := by
    simp only [List.mem_cons, List.not_mem_nil, or_false]
    rintro p (rfl | rfl | rfl)
    · exact .ofValue ..
    · exact .ofValue ..
    · exact .ofValue ..
  have hchanges : ∀ change ∈ changes, change.Built := by
    simp only [changes, List.mem_cons, List.not_mem_nil, or_false]
    rintro change (rfl | rfl | rfl | rfl)
    · trivial
    · trivial
    · exact Parameter.Built.new ..
    · exact hflags
  have hstart : ofList [Parameter.ofValue "gain" (gain 0.5) ⟨1⟩] = .ok start := rfl
  obtain ⟨-, -, -, hanswers, -⟩ := maps_answer_as_registries hps hstart hchanges
  refine ⟨hstart, hchanges, (hanswers.value_eq_ok_iff "gain" .double (2 : Float)).mpr rfl,
    (hanswers.value_eq_ok_iff "limit" .bool true).mpr rfl,
    (hanswers.value_empty_iff "mode" .string).mpr ⟨.string, rfl⟩, ?_⟩
  rw [hanswers.contains]
  rfl

end ParameterMap
end Kinematics
