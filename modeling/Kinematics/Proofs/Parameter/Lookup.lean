import Kinematics.Proofs.Parameter.Carries

/-!
# Looking up parameters

What a map answers after an entry was inserted or taken out, and the order of its entries.
-/

namespace Kinematics

namespace Parameter
variable {α : Type} {p : Parameter α} {v : ParameterValue α}

theorem get_of_none (h : p.value? = none) (type : ParameterType) :
    p.get type = .error (.emptyState p.name) := by
  unfold get value
  rw [h]
  rfl

theorem get_of_as?_some (h : p.value? = some v) {type : ParameterType} {x : type.Payload α}
    (hx : v.as? type = some x) : p.get type = .ok x := by
  unfold get value
  simp only [h, bind, Except.bind, hx]
  rfl

theorem get_of_as?_none (h : p.value? = some v) {type : ParameterType}
    (hx : v.as? type = none) : p.get type = .error (.parameterHoldsOther p.name p.declared type) := by
  unfold get value
  simp only [h, bind, Except.bind, hx]
  rfl

end Parameter

namespace ParameterMap
variable {α : Type} {m : ParameterMap α} {p : Parameter α}

section Find

theorem value_of_none {name : String} (h : m.find? name = none) (type : ParameterType) :
    m.value name type = .error (.unknownParameter name) := by
  unfold value parameter
  rw [h]
  rfl

theorem value_of_some {name : String} (h : m.find? name = some p) (type : ParameterType) :
    m.value name type = p.get type := by
  unfold value parameter
  rw [h]
  rfl

@[simp] theorem find?_empty (name : String) : (empty : ParameterMap α).find? name = none := rfl

private theorem lookup_cons (key : String) (q : Parameter α) (rest : List (String × Parameter α))
    (asked : String) :
    ((key, q) :: rest).lookup asked = if asked = key then some q else rest.lookup asked := by
  rw [List.lookup_cons]
  by_cases hasked : asked = key
  · rw [if_pos hasked, beq_iff_eq.mpr hasked]
  · rw [if_neg hasked, beq_eq_false_iff_ne.mpr hasked]

private theorem lookup_insertEntry (name asked : String) (p : Parameter α)
    (entries : List (String × Parameter α)) :
    (insertEntry name p entries).lookup asked =
      if asked = name then some p else entries.lookup asked := by
  induction entries with
  | nil => exact lookup_cons name p [] asked
  | cons first rest ih =>
    obtain ⟨key, q⟩ := first
    rw [insertEntry]
    split
    case isTrue => exact lookup_cons name p _ asked
    case isFalse =>
      split
      case isTrue heq =>
        subst heq
        rw [lookup_cons, lookup_cons]
        by_cases hasked : asked = name
        · rw [if_pos hasked, if_pos hasked]
        · simp only [if_neg hasked]
      case isFalse hne =>
        rw [lookup_cons, lookup_cons, ih]
        by_cases hasked : asked = name
        · subst hasked
          rw [if_neg hne, if_pos rfl, if_pos rfl]
        · simp only [if_neg hasked]

private theorem lookup_filter_ne (name asked : String) (entries : List (String × Parameter α)) :
    (entries.filter (·.1 ≠ name)).lookup asked =
      if asked = name then none else entries.lookup asked := by
  induction entries with
  | nil => simp
  | cons first rest ih =>
    obtain ⟨key, q⟩ := first
    by_cases hkey : key = name
    · subst hkey
      have hdropped : ((key, q) :: rest).filter (·.1 ≠ key) = rest.filter (·.1 ≠ key) :=
        List.filter_cons_of_neg (by simp)
      rw [hdropped, ih, lookup_cons]
      by_cases hasked : asked = key
      · rw [if_pos hasked, if_pos hasked]
      · simp only [if_neg hasked]
    · have hkept : ((key, q) :: rest).filter (·.1 ≠ name) = (key, q) :: rest.filter (·.1 ≠ name) :=
        List.filter_cons_of_pos (by simpa using hkey)
      rw [hkept, lookup_cons, lookup_cons, ih]
      by_cases hasked : asked = name
      · subst hasked
        rw [if_neg (Ne.symm hkey), if_pos rfl, if_pos rfl]
      · simp only [if_neg hasked]

theorem find?_insert (m : ParameterMap α) (name : String) (p : Parameter α) (asked : String) :
    (m.insert name p).find? asked = if asked = name then some p else m.find? asked :=
  lookup_insertEntry name asked p m.entries

@[simp] theorem find?_insert_self (m : ParameterMap α) (name : String) (p : Parameter α) :
    (m.insert name p).find? name = some p := by
  rw [find?_insert, if_pos rfl]

theorem find?_insert_of_ne (m : ParameterMap α) {name asked : String} (h : asked ≠ name)
    (p : Parameter α) : (m.insert name p).find? asked = m.find? asked := by
  rw [find?_insert, if_neg h]

theorem find?_erase (m : ParameterMap α) (name asked : String) :
    (m.erase name).find? asked = if asked = name then none else m.find? asked :=
  lookup_filter_ne name asked m.entries

end Find

section Order

/-- The entries stand in the order of their names, each of which occurs once. -/
def Ordered (m : ParameterMap α) : Prop := m.entries.Pairwise fun a b => a.1 < b.1

theorem ordered_empty : (empty : ParameterMap α).Ordered := List.Pairwise.nil

private theorem pairwise_insertEntry (name : String) (p : Parameter α)
    {entries : List (String × Parameter α)} (h : entries.Pairwise fun a b => a.1 < b.1) :
    (insertEntry name p entries).Pairwise fun a b => a.1 < b.1 := by
  induction entries with
  | nil => exact List.pairwise_singleton ..
  | cons first rest ih =>
    obtain ⟨key, q⟩ := first
    obtain ⟨hfirst, hrest⟩ := List.pairwise_cons.mp h
    rw [insertEntry]
    split
    case isTrue hlt =>
      refine List.pairwise_cons.mpr ⟨fun entry hentry => ?_, h⟩
      obtain rfl | hentry := List.mem_cons.mp hentry
      · exact hlt
      · exact String.lt_trans hlt (hfirst entry hentry)
    case isFalse hnot =>
      split
      case isTrue heq =>
        subst heq
        exact List.pairwise_cons.mpr ⟨hfirst, hrest⟩
      case isFalse hne =>
        have hkey : key < name := Std.lt_of_le_of_ne (String.not_lt.mp hnot) (Ne.symm hne)
        refine List.pairwise_cons.mpr ⟨fun entry hentry => ?_, ih hrest⟩
        obtain rfl | hentry := mem_insertEntry hentry
        · exact hkey
        · exact hfirst entry hentry

private theorem lookup_eq_some_iff {entries : List (String × Parameter α)}
    (h : entries.Pairwise fun a b => a.1 < b.1) (name : String) :
    entries.lookup name = some p ↔ (name, p) ∈ entries := by
  induction entries with
  | nil => simp
  | cons first rest ih =>
    obtain ⟨key, q⟩ := first
    obtain ⟨hfirst, hrest⟩ := List.pairwise_cons.mp h
    rw [lookup_cons, List.mem_cons]
    by_cases hname : name = key
    · subst hname
      have hlater : (name, p) ∉ rest := fun hp => String.lt_irrefl name (hfirst (name, p) hp)
      simp [hlater, eq_comm]
    · simp [hname, ih hrest]

namespace Ordered

theorem insert (hm : m.Ordered) (name : String) (p : Parameter α) : (m.insert name p).Ordered :=
  pairwise_insertEntry name p hm

theorem erase (hm : m.Ordered) (name : String) : (m.erase name).Ordered :=
  List.Pairwise.filter _ hm

theorem find?_eq_some_iff (hm : m.Ordered) {name : String} :
    m.find? name = some p ↔ (name, p) ∈ m.entries :=
  lookup_eq_some_iff hm name

end Ordered

/-- The map answers as `find` does. -/
structure Represents (m : ParameterMap α) (find : String → Option (Parameter α)) : Prop where
  ordered : m.Ordered
  find?_eq (name : String) : m.find? name = find name

end Order
end ParameterMap
end Kinematics
