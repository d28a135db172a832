import Kinematics.Joint.Sized
import Kinematics.Proofs.Joint.Operation
import Kinematics.Random

/-!
# As many numbers as joint names

The names of a joint state and its four fields are lists of their own. Whatever makes or changes a
joint state or one of its projections keeps them of one length, whether it is refused or not.
-/

namespace Kinematics

section Random
variable {α γ : Type} [Scalar α] [RandomGen γ]

theorem length_randomList (joints : Nat) (g : γ) :
    ((randomList joints : StateM γ (List α)).run g).1.length = joints := by
  have hmapM (xs : List Nat) (g : γ) :
      (((xs.mapM fun _ => randomSigned) : StateM γ (List α)).run g).1.length = xs.length := by
    induction xs generalizing g with
    | nil => rfl
    | cons x xs ih =>
      rw [List.mapM_cons]
      exact congrArg (· + 1) (ih _)
  rw [randomList, hmapM, List.length_range]

end Random

namespace JointState
variable {α : Type} {s t : JointState α}

/-- Every field has one number for each joint name. -/
def Sized (s : JointState α) : Prop := s.values.Sized s.size

/-- Compatible states have as many joints as each other. -/
theorem size_eq_of_assertCompatible (h : s.assertCompatible t = .ok ()) : s.size = t.size := by
  unfold assertCompatible at h
  split at h
  case isTrue hcompatible =>
    obtain ⟨-, hnames⟩ := (Bool.and_eq_true ..).mp hcompatible
    exact congrArg List.length (of_decide_eq_true hnames)
  case isFalse => cases h

theorem exists_jointIndex_iff {joint : String} :
    (∃ index, s.jointIndex joint = .ok index) ↔ joint ∈ s.names := by
  unfold jointIndex
  cases hfind : s.names.findIdx? (· = joint) with
  | some i =>
    obtain ⟨hlt, hi, -⟩ := List.findIdx?_eq_some_iff_getElem.mp hfind
    have hmem : joint ∈ s.names := of_decide_eq_true hi ▸ List.getElem_mem hlt
    simp [hmem]
  | none =>
    have hnot : joint ∉ s.names := by
      intro hmem
      simpa using List.findIdx?_eq_none_iff.mp hfind joint hmem
    simp [hnot]

/-- A look-up by name finds an index of the list of names. -/
theorem lt_size_of_jointIndex {joint : String} {index : Nat} (h : s.jointIndex joint = .ok index) :
    index < s.size := by
  unfold jointIndex at h
  split at h
  case h_1 i hfind =>
    cases h
    exact (List.findIdx?_eq_some_iff_findIdx_eq.mp hfind).1
  case h_2 => cases h

namespace Sized

theorem exists_valueAt_iff (h : s.Sized) {field : JointField} {index : Nat} :
    (∃ x, s.valueAt field index = .ok x) ↔ index < s.size := by
  rw [← h field, valueAt]
  cases hitem : (s.values.get field)[index]? with
  | some x => simpa using (List.getElem?_eq_some_iff.mp hitem).1
  | none => simpa using List.getElem?_eq_none_iff.mp hitem

/-- The joint that is found has a number in every field. -/
theorem exists_value_iff (h : s.Sized) {field : JointField} {joint : String} :
    (∃ x, s.value field joint = .ok x) ↔ joint ∈ s.names := by
  rw [← exists_jointIndex_iff]
  constructor
  · rintro ⟨x, hx⟩
    obtain ⟨index, hindex, -⟩ := exists_of_bind_eq_ok hx
    exact ⟨index, hindex⟩
  · rintro ⟨index, hindex⟩
    rw [value, hindex]
    exact h.exists_valueAt_iff.mpr (lt_size_of_jointIndex hindex)

theorem of_rewritten (h : s.Sized) {selection : JointSelection} (ht : s.Rewritten selection t) :
    t.Sized := by
  obtain ⟨data, hdata, rfl⟩ := ht
  exact JointValues.Sized.write h hdata

theorem of_rewrittenAt (h : s.Sized) {field : JointField} {x : α} (ht : s.RewrittenAt field x t) :
    t.Sized := by
  obtain ⟨index, -, rfl⟩ := ht
  exact JointValues.Sized.set h field ((List.length_set ..).trans (h field))

variable [Scalar α]

theorem ofType (type : StateType) (name : String) (names : List String) (now : Instant) :
    (ofType type name names now : JointState α).Sized :=
  JointValues.Sized.zeros names.length

theorem random {γ : Type} [RandomGen γ] (name : String) (names : List String) (now : Instant)
    (g : γ) : ((JointState.random name names now : StateM γ (JointState α)).run g).1.Sized := by
  intro field
  cases field <;> exact length_randomList names.length _

theorem project (h : s.Sized) (field : JointField) : (s.project field).general.Sized :=
  JointValues.Sized.restrict h [field]

theorem combine (hs : s.Sized) (ht : t.Sized) {sign : α} {r : JointState α}
    (h : combine sign s t = .ok r) : r.Sized := by
  obtain ⟨-, -, h⟩ := exists_of_bind_eq_ok h
  obtain ⟨-, -, h⟩ := exists_of_bind_eq_ok h
  obtain ⟨_, hcompatible, h⟩ := exists_of_bind_eq_ok h
  cases h
  have hvalues : t.values.Sized s.size := size_eq_of_assertCompatible hcompatible ▸ ht
  exact JointValues.Sized.zipWith hs hvalues _

theorem scaleSelection (h : s.Sized) {k : α} {selection : JointSelection}
    (ht : s.scaleSelection k selection = .ok t) : t.Sized := by
  obtain ⟨-, -, ht⟩ := exists_of_bind_eq_ok ht
  cases ht
  exact JointValues.Sized.scale h k selection.fields

theorem divide (h : s.Sized) {k : α} (ht : s.divide k = .ok t) : t.Sized := by
  unfold JointState.divide at ht
  split at ht
  case isTrue => cases ht
  case isFalse => exact h.scaleSelection ht

end Sized

variable [Scalar α]

/-- A change that is not refused leaves as many numbers as names behind. -/
theorem Change.Leaves.sized {change : Change α} (ht : change.Leaves s t) (h : s.Sized) :
    t.Sized := by
  cases change with
  | setName | setEmpty | touch =>
    cases ht
    exact h
  | setNames names =>
    obtain ⟨hsize, rfl⟩ := ht
    exact fun field => (h field).trans hsize.symm
  | setZero | clear =>
    cases ht
    exact JointValues.Sized.mapFields h fun _ _ => List.length_map ..
  | setValueAt | setValue => exact h.of_rewrittenAt ht
  | write | clamp | clampEach | multiply | multiplyEach => exact h.of_rewritten ht

theorem Change.keeps_sized (change : Change α) : change.edit.Keeps Sized :=
  .of_settles fun s hs => (change.settles s).mono fun _ ht => ht.sized hs

theorem Operation.sized_of_apply {op : Operation α} (hs : s.Sized)
    (hoperands : ∀ o ∈ op.operands, o.Sized) (h : op.apply s = .ok t) : t.Sized := by
  cases op with
  | add other | sub other => exact hs.combine (hoperands other (List.mem_singleton.mpr rfl)) h
  | scale | scaleSelection => exact hs.scaleSelection h
  | divide k => exact hs.divide h
  | scaleByMatrix gain => exact (Change.keeps_sized (.multiply gain .all)).onCopy hs h
  | scaleEach gain => exact (Change.keeps_sized (.multiplyEach gain .all)).onCopy hs h

end JointState

namespace JointProjection
variable {α : Type} [Scalar α] {field : JointField} {p q : JointProjection α field}

theorem sized_new (field : JointField) (name : String) (names : List String) (now : Instant) :
    (new field name names now : JointProjection α field).general.Sized :=
  .ofType field.type name names now

theorem Change.keeps_sized (change : Change α) :
    (change.edit : Edit α (JointProjection α field) Unit).Keeps (·.general.Sized) :=
  .of_settles fun p hp => (change.settles p).mono fun _ hq => hq.sized hp

/-- All sums and multiples project what the general operation yields. -/
theorem sized_of_project {result : Except (StateError α) (JointState α)}
    (hresult : ∀ s, result = .ok s → s.Sized)
    (h : (return (← result).project field) = Except.ok p) : p.general.Sized := by
  obtain ⟨s, hs, h⟩ := exists_of_bind_eq_ok h
  cases h
  exact (hresult s hs).project field

omit [Scalar α] in
theorem lift_keeps_sized {edit : Edit α (JointState α) Unit} (h : edit.Keeps JointState.Sized) :
    (lift edit : Edit α (JointProjection α field) Unit).Keeps (·.general.Sized) :=
  .within h (fun _ hp => hp) fun _ _ hs _ => hs

theorem Operation.sized_of_apply {op : Operation α field} (hp : p.general.Sized)
    (hoperands : ∀ o ∈ op.operands, o.general.Sized) (h : op.apply p = .ok q) :
    q.general.Sized := by
  cases op with
  | add other | sub other =>
    have hother := hoperands other (List.mem_singleton.mpr rfl)
    exact sized_of_project (fun _ hs => hp.combine hother hs) h
  | scale k => exact sized_of_project (fun _ hs => hp.scaleSelection hs) h
  | divide k => exact sized_of_project (fun _ hs => hp.divide hs) h
  | scaleByMatrix gain =>
    exact (lift_keeps_sized (JointState.Change.keeps_sized (.multiply gain _))).onCopy hp h
  | scaleEach gain =>
    exact (lift_keeps_sized (JointState.Change.keeps_sized (.multiplyEach gain _))).onCopy hp h
  | clamped bound ratio => exact (Change.keeps_sized (.clamp bound ratio)).onCopy hp h

section Time
variable {target : JointField} {r : JointProjection α target} {dt : Duration} {now : Instant}

theorem sized_of_carryOver {data : List α} (h : p.carryOver target data now = .ok r) :
    r.general.Sized :=
  (Change.keeps_sized (.setData data)).onCopy (sized_new _ _ _ _) h

theorem sized_of_rateOfChange (h : p.rateOfChange target dt now = .ok r) : r.general.Sized := by
  obtain ⟨-, -, h⟩ := exists_of_bind_eq_ok h
  obtain ⟨seconds, -, h⟩ := exists_of_bind_eq_ok h
  exact sized_of_carryOver h

theorem sized_of_accumulated (h : p.accumulated target dt now = .ok r) : r.general.Sized := by
  obtain ⟨-, -, h⟩ := exists_of_bind_eq_ok h
  exact sized_of_carryOver h

end Time
end JointProjection
end Kinematics
