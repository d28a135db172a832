import Kinematics.Proofs.Parameter.Consistent
import Kinematics.Proofs.Text.ByteOrder

/-!
# Batches of parameters

A batch sets its parameters in turn and stops at the first that is refused. What it leaves behind
is the map overridden by the parameters before that one, of each name the last.
-/

namespace Kinematics
namespace ParameterMap
variable {α : Type} {m other t : ParameterMap α} {p q : Parameter α} {ps : List (Parameter α)}
  {name : String} {i : Nat}

/-- The last of the parameters with the name. -/
def lastNamed? (ps : List (Parameter α)) (name : String) : Option (Parameter α) :=
  ps.reverse.find? (·.name = name)

theorem lastNamed?_cons (p : Parameter α) (ps : List (Parameter α)) (name : String) :
    lastNamed? (p :: ps) name =
      (lastNamed? ps name).or (if p.name = name then some p else none) := by
  rw [lastNamed?, List.reverse_cons, List.find?_append]
  by_cases hname : p.name = name
  · simp [lastNamed?, hname]
  · simp [lastNamed?, hname]

theorem name_of_lastNamed? (h : lastNamed? ps name = some p) : p.name = name := by
  simpa using List.find?_some h

theorem mem_of_lastNamed? (h : lastNamed? ps name = some p) : p ∈ ps :=
  List.mem_reverse.mp (List.mem_of_find?_eq_some h)

section Override

/-- The parameters inserted in turn, whatever they are declared to hold. -/
def override (m : ParameterMap α) (ps : List (Parameter α)) : ParameterMap α :=
  ps.foldl (fun m p => m.insert p.name p) m

theorem find?_override (m : ParameterMap α) (ps : List (Parameter α)) (name : String) :
    (m.override ps).find? name = (lastNamed? ps name).or (m.find? name) := by
  induction ps generalizing m with
  | nil => rfl
  | cons p ps ih =>
    change ((m.insert p.name p).override ps).find? name = _
    rw [ih, find?_insert, lastNamed?_cons]
    by_cases hname : name = p.name
    · subst hname
      cases lastNamed? ps p.name <;> simp
    · cases lastNamed? ps name <;> simp [hname, Ne.symm hname]

theorem Ordered.override (hm : m.Ordered) (ps : List (Parameter α)) :
    (m.override ps).Represents fun name => (lastNamed? ps name).or (m.find? name) := by
  refine ⟨?_, find?_override m ps⟩
  induction ps generalizing m with
  | nil => exact hm
  | cons p ps ih => exact ih (hm.insert p.name p)

end Override

section Refusal

theorem setParameters_cons (p : Parameter α) (ps : List (Parameter α)) :
    setParameters (p :: ps) = setParameter p >>= fun _ => setParameters ps := rfl

/-- The kind that the name has when the parameter at the index is up. -/
def typeBefore? (m : ParameterMap α) (ps : List (Parameter α)) (i : Nat) (name : String) :
    Option ParameterType :=
  ((lastNamed? (ps.take i) name).or (m.find? name)).map (·.declared)

/-- The parameter at the index is declared with another kind than its name has by then. -/
def Offends (m : ParameterMap α) (ps : List (Parameter α)) (i : Nat) : Prop :=
  ∃ p type, ps[i]? = some p ∧ m.typeBefore? ps i p.name = some type ∧ type ≠ p.declared

theorem offends_iff :
    m.Offends ps i ↔ ∃ p, ps[i]? = some p ∧ ¬(m.override (ps.take i)).Admits p := by
  unfold Offends typeBefore?
  simp only [not_admits_iff, find?_override, Option.map_eq_some_iff]
  constructor
  · rintro ⟨p, _, hp, ⟨q, hq, rfl⟩, hne⟩
    exact ⟨p, hp, q, hq, hne⟩
  · rintro ⟨p, hp, q, hq, hne⟩
    exact ⟨p, _, hp, ⟨q, hq, rfl⟩, hne⟩

theorem offends_cons_zero : m.Offends (p :: ps) 0 ↔ ¬m.Admits p := by
  rw [offends_iff]
  constructor
  · rintro ⟨q, hq, hnot⟩
    cases hq
    exact hnot
  · exact fun hnot => ⟨p, rfl, hnot⟩

theorem offends_cons_succ : m.Offends (p :: ps) (i + 1) ↔ (m.insert p.name p).Offends ps i := by
  rw [offends_iff, offends_iff]
  rfl

section Admitted
variable (h : ∀ i, ¬m.Offends (p :: ps) i)
include h

theorem admits_of_admitted_cons : m.Admits p :=
  Classical.not_not.mp fun hnot => h 0 (offends_cons_zero.mpr hnot)

theorem admitted_of_admitted_cons : ∀ i, ¬(m.insert p.name p).Offends ps i :=
  fun i hi => h (i + 1) (offends_cons_succ.mpr hi)

end Admitted

theorem applyTo_setParameters_of_admitted (h : ∀ i, ¬m.Offends ps i) :
    (setParameters ps).applyTo m = (.ok (), m.override ps) := by
  induction ps generalizing m with
  | nil => rfl
  | cons p ps ih =>
    rw [setParameters_cons, Edit.applyTo_bind,
      applyTo_setParameter_of_admits (admits_of_admitted_cons h)]
    exact ih (admitted_of_admitted_cons h)

theorem applyTo_setParameters_of_first (h : m.Offends ps i)
    (hfirst : ∀ j, j < i → ¬m.Offends ps j) :
    ∃ e, e.kind = .invalidParameter ∧
      (setParameters ps).applyTo m = (.error e, m.override (ps.take i)) := by
  induction ps generalizing m i with
  | nil =>
    obtain ⟨p, _, hp, -⟩ := h
    cases hp
  | cons p ps ih =>
    rw [setParameters_cons]
    cases i with
    | zero =>
      obtain ⟨q, hfound, htype⟩ := not_admits_iff.mp (offends_cons_zero.mp h)
      rw [Edit.applyTo_bind, applyTo_setParameter_of_ne hfound htype]
      exact ⟨_, rfl, rfl⟩
    | succ i =>
      have hadmits : m.Admits p :=
        Classical.not_not.mp fun hnot => hfirst 0 (by omega) (offends_cons_zero.mpr hnot)
      rw [Edit.applyTo_bind, applyTo_setParameter_of_admits hadmits]
      refine ih (offends_cons_succ.mp h) fun j hj hoffends => ?_
      exact hfirst (j + 1) (by omega) (offends_cons_succ.mpr hoffends)

/-- Where anything offends, something is the first to do so. -/
theorem admitted_or_exists_first (m : ParameterMap α) (ps : List (Parameter α)) :
    (∀ i, ¬m.Offends ps i) ∨ ∃ i, m.Offends ps i ∧ ∀ j, j < i → ¬m.Offends ps j := by
  induction ps generalizing m with
  | nil =>
    left
    rintro i ⟨p, _, hp, -⟩
    cases hp
  | cons p ps ih =>
    by_cases hzero : m.Offends (p :: ps) 0
    · exact .inr ⟨0, hzero, fun j hj => absurd hj (Nat.not_lt_zero j)⟩
    · obtain hrest | ⟨i, hi, hfirst⟩ := ih (m.insert p.name p)
      · left
        intro i
        cases i with
        | zero => exact hzero
        | succ i => exact fun hi => hrest i (offends_cons_succ.mp hi)
      · refine .inr ⟨i + 1, offends_cons_succ.mpr hi, fun j hj => ?_⟩
        cases j with
        | zero => exact hzero
        | succ j => exact fun hoffends => hfirst j (by omega) (offends_cons_succ.mp hoffends)

theorem setParameters_eq_ok_iff :
    ((setParameters ps).applyTo m).1 = .ok () ↔ ∀ i, ¬m.Offends ps i := by
  constructor
  · intro hok
    obtain hadmitted | ⟨i, hi, hfirst⟩ := admitted_or_exists_first m ps
    · exact hadmitted
    · obtain ⟨e, -, hrefused⟩ := applyTo_setParameters_of_first hi hfirst
      rw [hrefused] at hok
      cases hok
  · intro hadmitted
    rw [applyTo_setParameters_of_admitted hadmitted]

end Refusal

section List

/-- Names keep their kinds in a batch that is not refused. -/
theorem declared_override_of_find? (h : ∀ i, ¬m.Offends ps i) (hfound : m.find? name = some q) :
    ∃ r, (m.override ps).find? name = some r ∧ r.declared = q.declared := by
  induction ps generalizing m q with
  | nil => exact ⟨q, hfound, rfl⟩
  | cons p ps ih =>
    by_cases hname : name = p.name
    · subst hname
      rw [admits_of_admitted_cons h q hfound]
      exact ih (admitted_of_admitted_cons h) (find?_insert_self m p.name p)
    · apply ih (admitted_of_admitted_cons h)
      rw [find?_insert_of_ne m hname, hfound]

theorem declared_override_of_mem (h : ∀ i, ¬m.Offends ps i) (hp : p ∈ ps) :
    ∃ r, (m.override ps).find? p.name = some r ∧ r.declared = p.declared := by
  induction ps generalizing m with
  | nil => exact absurd hp List.not_mem_nil
  | cons q ps ih =>
    have hrest := admitted_of_admitted_cons h
    obtain rfl | hp := List.mem_cons.mp hp
    · exact declared_override_of_find? (m := m.insert p.name p) hrest
        (find?_insert_self m p.name p)
    · exact ih hrest hp

theorem admitted_empty_iff :
    (∀ i, ¬(empty : ParameterMap α).Offends ps i) ↔
      ∀ p ∈ ps, ∀ q ∈ ps, p.name = q.name → p.declared = q.declared := by
  constructor
  · intro h p hp q hq hname
    obtain ⟨r, hr, hrp⟩ := declared_override_of_mem h hp
    obtain ⟨r', hr', hrq⟩ := declared_override_of_mem h hq
    rw [hname, hr'] at hr
    cases hr
    rw [← hrp, hrq]
  · rintro h i ⟨p, type, hp, htype, hne⟩
    rw [typeBefore?, find?_empty, Option.or_none, Option.map_eq_some_iff] at htype
    obtain ⟨q, hq, rfl⟩ := htype
    have hqmem : q ∈ ps := List.mem_of_mem_take (mem_of_lastNamed? hq)
    exact hne (h q hqmem p (List.mem_of_getElem? hp) (name_of_lastNamed? hq))

end List

section Map

/-- The maps declare the name with different kinds. -/
def Conflicts (m other : ParameterMap α) (name : String) : Prop :=
  ∃ p q, m.find? name = some p ∧ other.find? name = some q ∧ p.declared ≠ q.declared

/-- Where every name occurs once, the last parameter of a name is the only one. -/
theorem lastNamed?_eq_some_iff (h : ps.Pairwise fun p q => p.name < q.name) :
    lastNamed? ps name = some q ↔ q ∈ ps ∧ q.name = name := by
  refine ⟨fun hq => ⟨mem_of_lastNamed? hq, name_of_lastNamed? hq⟩, ?_⟩
  rintro ⟨hq, rfl⟩
  induction ps with
  | nil => exact absurd hq List.not_mem_nil
  | cons p ps ih =>
    obtain ⟨hp, hps⟩ := List.pairwise_cons.mp h
    rw [lastNamed?_cons]
    obtain rfl | hq := List.mem_cons.mp hq
    · have hnone : lastNamed? ps q.name = none := by
        cases hlater : lastNamed? ps q.name with
        | none => rfl
        | some r =>
          have hlt := hp r (mem_of_lastNamed? hlater)
          rw [name_of_lastNamed? hlater] at hlt
          exact absurd hlt (String.lt_irrefl _)
      rw [hnone, if_pos rfl]
      rfl
    · rw [ih hps hq]
      rfl

namespace WellFormed

theorem pairwise_toList (hm : m.WellFormed) : m.toList.Pairwise fun p q => p.name < q.name := by
  refine List.pairwise_map.mpr (hm.ordered.imp_of_mem fun hp hq hlt => ?_)
  rw [hm.keyed hp, hm.keyed hq]
  exact hlt

theorem find?_eq_some_iff (hm : m.WellFormed) :
    m.find? name = some p ↔ p ∈ m.toList ∧ p.name = name := by
  rw [hm.ordered.find?_eq_some_iff]
  constructor
  · intro hp
    exact ⟨List.mem_map_of_mem hp, hm.keyed hp⟩
  · rintro ⟨hp, rfl⟩
    obtain ⟨entry, hentry, rfl⟩ := List.mem_map.mp hp
    rw [hm.keyed hentry]
    exact hentry

theorem lastNamed?_toList (hm : m.WellFormed) (name : String) :
    lastNamed? m.toList name = m.find? name := by
  ext p
  rw [lastNamed?_eq_some_iff hm.pairwise_toList, hm.find?_eq_some_iff]

/-- The parameters before one in a map are those with smaller names. -/
theorem mem_take_toList_iff (hm : m.WellFormed) (hp : m.toList[i]? = some p) :
    q ∈ m.toList.take i ↔ q ∈ m.toList ∧ q.name < p.name := by
  obtain ⟨hi, hget⟩ := List.getElem?_eq_some_iff.mp hp
  have hdrop : m.toList.drop i = p :: m.toList.drop (i + 1) := by
    rw [List.drop_eq_getElem_cons hi, hget]
  have hsplit : m.toList = m.toList.take i ++ p :: m.toList.drop (i + 1) := by
    rw [← hdrop, List.take_append_drop]
  have hpairwise := hm.pairwise_toList
  rw [hsplit] at hpairwise
  obtain ⟨-, hafter, hbefore⟩ := List.pairwise_append.mp hpairwise
  constructor
  · intro hq
    exact ⟨List.mem_of_mem_take hq, hbefore q hq p List.mem_cons_self⟩
  · rintro ⟨hq, hlt⟩
    rw [hsplit] at hq
    obtain hq | hq := List.mem_append.mp hq
    · exact hq
    · obtain rfl | hq := List.mem_cons.mp hq
      · exact absurd hlt (String.lt_irrefl _)
      · exact absurd hlt (String.lt_asymm ((List.pairwise_cons.mp hafter).1 q hq))

theorem lastNamed?_take_toList (hm : m.WellFormed) (hp : m.toList[i]? = some p) (name : String) :
    lastNamed? (m.toList.take i) name = if name < p.name then m.find? name else none := by
  have hpairwise : (m.toList.take i).Pairwise fun p q => p.name < q.name :=
    hm.pairwise_toList.sublist (List.take_sublist i _)
  ext q
  rw [lastNamed?_eq_some_iff hpairwise, hm.mem_take_toList_iff hp, Option.ite_none_right_eq_some,
    hm.find?_eq_some_iff]
  constructor
  · rintro ⟨⟨hq, hlt⟩, rfl⟩
    exact ⟨hlt, hq, rfl⟩
  · rintro ⟨hlt, hq, rfl⟩
    exact ⟨⟨hq, hlt⟩, rfl⟩

theorem offends_toList_iff (hother : other.WellFormed) (hp : other.toList[i]? = some p) :
    m.Offends other.toList i ↔ m.Conflicts other p.name := by
  have hfound : other.find? p.name = some p :=
    hother.find?_eq_some_iff.mpr ⟨List.mem_of_getElem? hp, rfl⟩
  have hnone : lastNamed? (other.toList.take i) p.name = none := by
    rw [hother.lastNamed?_take_toList hp, if_neg (String.lt_irrefl _)]
  unfold Offends typeBefore? Conflicts
  constructor
  · rintro ⟨q, type, hq, htype, hne⟩
    cases hp.symm.trans hq
    rw [hnone, Option.none_or, Option.map_eq_some_iff] at htype
    obtain ⟨r, hr, rfl⟩ := htype
    exact ⟨r, p, hr, hfound, hne⟩
  · rintro ⟨r, q, hr, hq, hne⟩
    cases hfound.symm.trans hq
    refine ⟨p, r.declared, hp, ?_, hne⟩
    rw [hnone, hr]
    rfl

theorem conflicts_iff (hother : other.WellFormed) :
    m.Conflicts other name ↔
      ∃ i p, other.toList[i]? = some p ∧ p.name = name ∧ m.Offends other.toList i := by
  constructor
  · rintro ⟨p, q, hp, hq, hne⟩
    obtain ⟨hmem, hname⟩ := hother.find?_eq_some_iff.mp hq
    obtain ⟨i, hi⟩ := List.mem_iff_getElem?.mp hmem
    subst hname
    exact ⟨i, q, hi, rfl, (hother.offends_toList_iff hi).mpr ⟨p, q, hp, hq, hne⟩⟩
  · rintro ⟨i, p, hp, rfl, hoffends⟩
    exact (hother.offends_toList_iff hp).mp hoffends

theorem admitted_toList_iff (hother : other.WellFormed) :
    (∀ i, ¬m.Offends other.toList i) ↔ ∀ name, ¬m.Conflicts other name := by
  constructor
  · intro h name hconflict
    obtain ⟨i, p, -, -, hoffends⟩ := hother.conflicts_iff.mp hconflict
    exact h i hoffends
  · intro h i hoffends
    have ⟨p, _, hp, _⟩ := hoffends
    exact h p.name ((hother.offends_toList_iff hp).mp hoffends)

/-- The parameter that offends first has the least name in conflict. -/
theorem first_offends_iff (hother : other.WellFormed) (hp : other.toList[i]? = some p) :
    (m.Offends other.toList i ∧ ∀ j, j < i → ¬m.Offends other.toList j) ↔
      m.Conflicts other p.name ∧ ∀ name, m.Conflicts other name → ¬name < p.name := by
  refine and_congr (hother.offends_toList_iff hp) ⟨fun hfirst name hconflict hlt => ?_, ?_⟩
  · obtain ⟨j, q, hq, rfl, -⟩ := hother.conflicts_iff.mp hconflict
    have hmem : q ∈ other.toList.take i :=
      (hother.mem_take_toList_iff hp).mpr ⟨List.mem_of_getElem? hq, hlt⟩
    obtain ⟨k, hk⟩ := List.mem_iff_getElem?.mp hmem
    rw [List.getElem?_take, Option.ite_none_right_eq_some] at hk
    exact hfirst k hk.1 ((hother.offends_toList_iff hk.2).mpr hconflict)
  · intro hleast j hj hoffends
    have ⟨q, _, hq, _⟩ := hoffends
    have hmem : q ∈ other.toList.take i := by
      refine List.mem_iff_getElem?.mpr ⟨j, ?_⟩
      rw [List.getElem?_take, if_pos hj, hq]
    exact hleast q.name ((hother.offends_toList_iff hq).mp hoffends)
      ((hother.mem_take_toList_iff hp).mp hmem).2

end WellFormed

theorem applyTo_setMap_of_agree (hm : m.Ordered) (hother : other.WellFormed)
    (h : ∀ name, ¬m.Conflicts other name) :
    ∃ t, (setMap other).applyTo m = (.ok (), t) ∧
      t.Represents fun name => (other.find? name).or (m.find? name) := by
  refine ⟨m.override other.toList,
    applyTo_setParameters_of_admitted (hother.admitted_toList_iff.mpr h), ?_⟩
  have hoverride := hm.override other.toList
  simp only [hother.lastNamed?_toList] at hoverride
  exact hoverride

theorem applyTo_setMap_of_conflict (hm : m.Ordered) (hother : other.WellFormed) {c : String}
    (hc : m.Conflicts other c) (hleast : ∀ name, m.Conflicts other name → ¬name < c) :
    ∃ e t, e.kind = .invalidParameter ∧ (setMap other).applyTo m = (.error e, t) ∧
      t.Represents fun name =>
        if name < c then (other.find? name).or (m.find? name) else m.find? name := by
  obtain ⟨i, p, hp, rfl, -⟩ := hother.conflicts_iff.mp hc
  obtain ⟨hoffends, hfirst⟩ := (hother.first_offends_iff hp).mpr ⟨hc, hleast⟩
  obtain ⟨e, he, hrefused⟩ := applyTo_setParameters_of_first hoffends hfirst
  refine ⟨e, _, he, hrefused, (hm.override _).ordered, fun name => ?_⟩
  rw [find?_override, hother.lastNamed?_take_toList hp]
  by_cases hlt : name < p.name
  · rw [if_pos hlt, if_pos hlt]
  · rw [if_neg hlt, if_neg hlt, Option.none_or]

theorem exists_least_conflict (hother : other.WellFormed) (h : m.Conflicts other name) :
    ∃ c, m.Conflicts other c ∧ ∀ name, m.Conflicts other name → ¬name < c := by
  obtain hadmitted | ⟨i, hi, hfirst⟩ := admitted_or_exists_first m other.toList
  · exact absurd h (hother.admitted_toList_iff.mp hadmitted name)
  · have ⟨p, _, hp, _⟩ := hi
    exact ⟨p.name, (hother.first_offends_iff hp).mp ⟨hi, hfirst⟩⟩

theorem setMap_eq_ok_iff (hother : other.WellFormed) :
    ((setMap other).applyTo m).1 = .ok () ↔ ∀ name, ¬m.Conflicts other name := by
  rw [← hother.admitted_toList_iff]
  exact setParameters_eq_ok_iff

end Map

theorem ofList_eq_ok_iff :
    (∃ t, ofList ps = .ok t) ↔ ∀ p ∈ ps, ∀ q ∈ ps, p.name = q.name → p.declared = q.declared := by
  rw [← admitted_empty_iff, ← setParameters_eq_ok_iff]
  simp only [ofList, Edit.onCopy_eq_ok_iff, Prod.ext_iff, exists_and_left, exists_eq', and_true]

theorem represents_of_ofList (h : ofList ps = .ok t) : t.Represents (lastNamed? ps) := by
  have hadmitted := admitted_empty_iff.mpr (ofList_eq_ok_iff.mp ⟨t, h⟩)
  rw [ofList, Edit.onCopy_eq_ok_iff, applyTo_setParameters_of_admitted hadmitted] at h
  cases h
  have hoverride := ordered_empty.override ps
  simp only [find?_empty, Option.or_none] at hoverride
  exact hoverride

/-- A batch succeeds if no parameter is declared with another kind than its name has by then, and
overrides the map by the last parameter of each name. Otherwise it does so with the parameters
before the first that offends. A list makes a map if its parameters agree on the kinds of names,
and a map takes in all of another, or, from the first name in conflict on, nothing. -/
theorem batch_outcomes {α : Type} {m : ParameterMap α} (hm : m.Built) :
    (∀ ps : List (Parameter α),
      (((setParameters ps).applyTo m).1 = .ok () ↔ ∀ i, ¬m.Offends ps i) ∧
      ((∀ i, ¬m.Offends ps i) → ∃ t, (setParameters ps).applyTo m = (.ok (), t) ∧
        t.Represents fun name => (lastNamed? ps name).or (m.find? name)) ∧
      ∀ i, m.Offends ps i → (∀ j, j < i → ¬m.Offends ps j) →
        ∃ e t, e.kind = .invalidParameter ∧ (setParameters ps).applyTo m = (.error e, t) ∧
          t.Represents fun name => (lastNamed? (ps.take i) name).or (m.find? name)) ∧
    (∀ ps : List (Parameter α),
      ((∃ t, ofList ps = .ok t) ↔
        ∀ p ∈ ps, ∀ q ∈ ps, p.name = q.name → p.declared = q.declared) ∧
      ∀ t, ofList ps = .ok t → t.Represents (lastNamed? ps)) ∧
    ∀ other : ParameterMap α, other.Built →
      (((setMap other).applyTo m).1 = .ok () ↔ ∀ name, ¬m.Conflicts other name) ∧
      ((∀ name, ¬m.Conflicts other name) → ∃ t, (setMap other).applyTo m = (.ok (), t) ∧
        t.Represents fun name => (other.find? name).or (m.find? name)) ∧
      ((∃ name, m.Conflicts other name) → ∃ c, m.Conflicts other c ∧
        (∀ name, m.Conflicts other name → ¬bytes name < bytes c) ∧
        ∃ e t, e.kind = .invalidParameter ∧ (setMap other).applyTo m = (.error e, t) ∧
          t.Represents fun name =>
            if bytes name < bytes c then (other.find? name).or (m.find? name)
            else m.find? name) := by
  have hordered := hm.wellFormed.ordered
  refine ⟨fun ps => ⟨setParameters_eq_ok_iff, fun h => ?_, fun i hi hfirst => ?_⟩,
    fun ps => ⟨ofList_eq_ok_iff, fun t => represents_of_ofList⟩, fun other hbuilt => ?_⟩
  · exact ⟨_, applyTo_setParameters_of_admitted h, hordered.override ps⟩
  · obtain ⟨e, he, hrefused⟩ := applyTo_setParameters_of_first hi hfirst
    exact ⟨e, _, he, hrefused, hordered.override _⟩
  · have hother := hbuilt.wellFormed
    refine ⟨setMap_eq_ok_iff hother, applyTo_setMap_of_agree hordered hother, ?_⟩
    rintro ⟨name, hconflict⟩
    obtain ⟨c, hc, hleast⟩ := exists_least_conflict hother hconflict
    simp only [bytes_lt_iff]
    exact ⟨c, hc, hleast, applyTo_setMap_of_conflict hordered hother hc hleast⟩

/-- A gain is raised and a flag set before a flag is refused in place of the gain. -/
theorem batch_outcomes_halfway :
    let gain (x : Float) : Parameter Float := .ofValue "gain" ⟨.double, x⟩ ⟨0⟩
    let flag (name : String) : Parameter Float := .ofValue name ⟨.bool, true⟩ ⟨1⟩
    let m : ParameterMap Float := ⟨[("gain", gain 0.5)]⟩
    let ps := [gain 2, flag "active", flag "gain", flag "visible"]
    m.Built ∧ m.Offends ps 2 ∧ ∃ e t, e.kind = .invalidParameter ∧
      (setParameters ps).applyTo m = (.error e, t) ∧ t.find? "gain" = some (gain 2) ∧
      t.find? "active" = some (flag "active") ∧ t.find? "visible" = none := by
  intro gain flag m ps
  have hm : m.Built := .setParameter .empty (.ofValue "gain" ⟨.double, (0.5 : Float)⟩ ⟨0⟩)
  have hoffends : m.Offends ps 2 := ⟨flag "gain", .double, rfl, rfl, by decide⟩
  have hfirst (j : Nat) (hj : j < 2) : ¬m.Offends ps j := by
    rintro ⟨p, type, hp, htype, hne⟩
    match j with
    | 0 =>
      cases hp
      have hsame : m.typeBefore? ps 0 "gain" = some .double := rfl
      cases hsame.symm.trans htype
      exact hne rfl
    | 1 =>
      cases hp
      have hnew : m.typeBefore? ps 1 "active" = none := rfl
      cases hnew.symm.trans htype
  obtain ⟨hbatch, -⟩ := batch_outcomes hm
  obtain ⟨e, t, he, hrefused, -, hfind⟩ := (hbatch ps).2.2 2 hoffends hfirst
  exact ⟨hm, hoffends, e, t, he, hrefused, hfind "gain", hfind "active", hfind "visible"⟩

end ParameterMap
end Kinematics
