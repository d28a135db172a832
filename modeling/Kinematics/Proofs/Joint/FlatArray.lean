import Kinematics.Proofs.Joint.Layout
import Mathlib.Data.List.Basic
import Mathlib.Order.Bounds.Basic

/-!
# One array of numbers

The four fields of a joint state stand one after the other in one array, and all that reads or
writes numbers of joints reads or writes places of that array.
-/

namespace Kinematics

namespace JointSelection

/-- The fields that are stored before the selected ones. -/
def before (selection : JointSelection) : List JointField :=
  all.fields.takeWhile fun field => field ∉ selection.fields

/-- The fields that are stored after the selected ones. -/
def after (selection : JointSelection) : List JointField :=
  all.fields.drop (selection.before ++ selection.fields).length

/-- The place of the first selected number in the array. -/
def offset (selection : JointSelection) (joints : Nat) : Nat := selection.before.length * joints

theorem fields_all (selection : JointSelection) :
    all.fields = selection.before ++ selection.fields ++ selection.after := by
  cases selection <;> rfl

theorem notMem_fields_of_mem_before (selection : JointSelection) :
    ∀ field ∈ selection.before, field ∉ selection.fields := by
  cases selection <;> decide

theorem notMem_fields_of_mem_after (selection : JointSelection) :
    ∀ field ∈ selection.after, field ∉ selection.fields := by
  cases selection <;> decide

end JointSelection

/-- The row of the field in the array. -/
def JointField.index (field : JointField) : Nat := JointSelection.all.fields.idxOf field

example : JointField.velocities.index = 1 ∧ JointField.torques.index = 3 := by decide

theorem JointField.offset_selection (field : JointField) (joints : Nat) :
    field.selection.offset joints = field.index * joints := by
  cases field <;> rfl

namespace JointValues
variable {α : Type} {v : JointValues α} {size : Nat} {selection : JointSelection} {data : List α}

theorem read_all_eq_append (v : JointValues α) (selection : JointSelection) :
    v.read JointSelection.all.fields =
      v.read selection.before ++ v.read selection.fields ++ v.read selection.after := by
  rw [selection.fields_all, read, List.flatMap_append, List.flatMap_append]
  rfl

theorem length_read_before (h : v.Sized size) (selection : JointSelection) :
    (v.read selection.before).length = selection.offset size :=
  h.length_read_fields selection.before

/-- The selected numbers are a slice of the array. -/
theorem read_eq_slice (h : v.Sized size) (selection : JointSelection) :
    v.read selection.fields =
      ((v.read JointSelection.all.fields).drop (selection.offset size)).take
        (selection.size size) := by
  rw [v.read_all_eq_append selection, List.append_assoc,
    List.drop_left' (length_read_before h selection), List.take_left' (h.length_read selection)]

theorem read_write_of_notMem {fields others : List JointField}
    (h : ∀ field ∈ others, field ∉ fields) (v : JointValues α) (size : Nat) (data : List α) :
    (v.write size fields data).read others = v.read others :=
  List.flatMap_congr fun field hin => get_write_of_notMem (h field hin) size data

/-- A write to a selection replaces its slice of the array. -/
theorem read_all_write (hdata : data.length = selection.size size) (v : JointValues α) :
    (v.write size selection.fields data).read JointSelection.all.fields =
      v.read selection.before ++ data ++ v.read selection.after := by
  rw [read_all_eq_append _ selection, read_write hdata selection.nodup_fields,
    read_write_of_notMem selection.notMem_fields_of_mem_before,
    read_write_of_notMem selection.notMem_fields_of_mem_after]

theorem getElem?_read_all_write_of_lt (h : v.Sized size)
    (hdata : data.length = selection.size size) {i : Nat} (hi : i < data.length) :
    ((v.write size selection.fields data).read JointSelection.all.fields)[
      selection.offset size + i]? = data[i]? := by
  rw [read_all_write hdata, List.append_assoc, ← length_read_before h selection,
    List.getElem?_append_right (Nat.le_add_right ..), Nat.add_sub_cancel_left,
    List.getElem?_append_left hi]

theorem getElem?_read_all_write_of_outside (h : v.Sized size)
    (hdata : data.length = selection.size size) {place : Nat}
    (hplace : place < selection.offset size ∨ selection.offset size + data.length ≤ place) :
    ((v.write size selection.fields data).read JointSelection.all.fields)[place]? =
      (v.read JointSelection.all.fields)[place]? := by
  have hbefore := length_read_before h selection
  have hselected : (v.read selection.fields).length = data.length :=
    (h.length_read selection).trans hdata.symm
  rw [read_all_write hdata, v.read_all_eq_append selection, List.append_assoc, List.append_assoc]
  obtain hlt | hle := hplace
  · rw [← hbefore] at hlt
    rw [List.getElem?_append_left hlt, List.getElem?_append_left hlt]
  · rw [List.getElem?_append_right (by omega), List.getElem?_append_right (by omega),
      List.getElem?_append_right (by omega), List.getElem?_append_right (by omega), hselected]

section Place
variable {field : JointField} {index : Nat}

/-- A field is a row of the array. -/
theorem get_eq_slice (h : v.Sized size) (field : JointField) :
    v.get field =
      ((v.read JointSelection.all.fields).drop (field.index * size)).take size := by
  have hslice := read_eq_slice h field.selection
  rwa [field.fields_selection, read_singleton, field.offset_selection, JointSelection.size,
    field.fields_selection, List.length_singleton, Nat.one_mul] at hslice

theorem getElem?_get (h : v.Sized size) (field : JointField) (hindex : index < size) :
    (v.get field)[index]? =
      (v.read JointSelection.all.fields)[field.index * size + index]? := by
  rw [get_eq_slice h field, List.getElem?_take_of_lt hindex, List.getElem?_drop]

/-- Another number for one joint in a field is another number in one place of the array. -/
theorem read_all_set_set (h : v.Sized size) (hindex : index < size) (x : α) :
    (v.set field ((v.get field).set index x)).read JointSelection.all.fields =
      (v.read JointSelection.all.fields).set (field.index * size + index) x := by
  have hlength : ((v.get field).set index x).length = size :=
    (List.length_set ..).trans (h field)
  have hdata : ((v.get field).set index x).length = field.selection.size size := by
    rw [hlength, JointSelection.size, field.fields_selection, List.length_singleton, Nat.one_mul]
  have hbefore := length_read_before h field.selection
  have hwrite := read_all_write hdata v
  rw [field.fields_selection, write_singleton v field hlength] at hwrite
  rw [hwrite, v.read_all_eq_append field.selection, field.fields_selection, read_singleton,
    List.append_assoc, List.append_assoc, ← field.offset_selection, ← hbefore,
    List.set_append_right _ _ (Nat.le_add_right ..), Nat.add_sub_cancel_left,
    List.set_append_left _ _ (hindex.trans_eq (h field).symm)]

theorem getElem?_read_all_set (h : v.Sized size) (field : JointField) (hindex : index < size)
    (x : α) (place : Nat) :
    ((v.set field ((v.get field).set index x)).read JointSelection.all.fields)[place]? =
      if place = field.index * size + index then some x
      else (v.read JointSelection.all.fields)[place]? := by
  have hitem := getElem?_get h field hindex
  rw [List.getElem?_eq_getElem (hindex.trans_eq (h field).symm), eq_comm] at hitem
  -- The place is in the array, since the number of the joint is found there.
  have hplace := (List.getElem?_eq_some_iff.mp hitem).1
  rw [read_all_set_set h hindex, List.getElem?_set, if_pos hplace]
  simp only [eq_comm (a := place)]

end Place
end JointValues

namespace JointState
variable {α : Type} {s : JointState α} {field : JointField} {index : Nat} {joint : String}

theorem valueAt_of_le (hs : s.Sized) (field : JointField) (h : s.size ≤ index) :
    s.valueAt field index = .error (.jointIndexOutOfRange index s.size) := by
  rw [valueAt, List.getElem?_eq_none ((hs field).trans_le h)]

theorem setValueAt_of_le (field : JointField) (h : s.size ≤ index) (x : α) :
    (setValueAt field index x).applyTo s =
      (.error (.jointIndexOutOfRange index s.size), s) := by
  rw [setValueAt, Edit.applyTo_bind, Edit.applyTo_get]
  dsimp only
  rw [Edit.applyTo_bind, Edit.applyTo_require, checkIndex, if_pos h]

theorem setValueAt_of_lt (field : JointField) (h : index < s.size) (x : α) :
    (setValueAt field index x).applyTo s =
      (.ok (), s.setValues (s.values.set field ((s.values.get field).set index x))) := by
  rw [setValueAt, Edit.applyTo_bind, Edit.applyTo_get]
  dsimp only
  rw [Edit.applyTo_bind, Edit.applyTo_require, checkIndex_eq_ok_iff.mpr h]
  rfl

theorem valueAt_eq_ok_iff (hs : s.Sized) {x : α} :
    s.valueAt field index = .ok x ↔
      index < s.size ∧ (s.read .all)[field.index * s.size + index]? = some x := by
  by_cases h : index < s.size
  · have hitem : (s.values.get field)[index]? =
        (s.read .all)[field.index * s.size + index]? := JointValues.getElem?_get hs field h
    rw [and_iff_right h, ← hitem, valueAt]
    cases (s.values.get field)[index]? <;> simp
  · rw [valueAt_of_le hs field (Nat.le_of_not_lt h)]
    simp [h]

/-- A name is looked up at its first place in the list of names. -/
theorem jointIndex_eq_ok_iff :
    s.jointIndex joint = .ok index ↔ IsLeast { i | s.names[i]? = some joint } index := by
  have hfind : s.jointIndex joint = .ok index ↔
      s.names.findIdx? (· = joint) = some index := by
    rw [jointIndex]
    split
    case h_1 i hi => rw [hi, Except.ok.injEq, Option.some.injEq]
    case h_2 hnone => simp [hnone]
  rw [hfind, List.findIdx?_eq_some_iff_getElem]
  constructor
  · rintro ⟨hlt, heq, hmin⟩
    refine ⟨List.getElem?_eq_some_iff.mpr ⟨hlt, of_decide_eq_true heq⟩, fun i hi => ?_⟩
    obtain ⟨hi, heq⟩ := List.getElem?_eq_some_iff.mp hi
    exact Nat.le_of_not_lt fun hbefore => hmin i hbefore (decide_eq_true heq)
  · rintro ⟨hindex, hmin⟩
    obtain ⟨hlt, heq⟩ := List.getElem?_eq_some_iff.mp hindex
    refine ⟨hlt, decide_eq_true heq, fun i hbefore hi => ?_⟩
    have hi := List.getElem?_eq_some_iff.mpr ⟨hbefore.trans hlt, of_decide_eq_true hi⟩
    exact absurd (hmin hi) (Nat.not_le_of_lt hbefore)

theorem jointIndex_of_notMem (h : joint ∉ s.names) :
    s.jointIndex joint = .error (.jointNotFound joint) := by
  have hnone : s.names.findIdx? (· = joint) = none := by
    rw [List.findIdx?_eq_none_iff]
    intro name hname
    exact decide_eq_false fun heq => h (heq ▸ hname)
  rw [jointIndex, hnone]

theorem value_of_jointIndex {found : Except (StateError α) Nat} (h : s.jointIndex joint = found)
    (field : JointField) : s.value field joint = found >>= s.valueAt field := by
  rw [value, h]

theorem setValue_applyTo (field : JointField) (joint : String) (x : α) (s : JointState α) :
    (setValue field joint x).applyTo s =
      match s.jointIndex joint with
      | .ok index => (setValueAt field index x).applyTo s
      | .error e => (.error e, s) := by
  rw [setValue, Edit.applyTo_bind, Edit.applyTo_get]
  dsimp only
  rw [Edit.applyTo_bind, Edit.applyTo_liftM]
  cases s.jointIndex joint <;> rfl

end JointState

open JointState (setData setValue setValueAt write) in
/-- The number of joint `index` in a field is at place `field.index * s.size + index` of the array,
for whoever reads or writes it: whole fields and selections, by index, or by a name, which stands
for the first joint of that name. A write is refused when there is no such joint or not one number
for each place, and otherwise changes no other place. So the numbers of a filled state restore
it. -/
theorem joint_views_share_one_array {α : Type} (s : JointState α) (hs : s.Sized) :
    (s.read .all).length = 4 * s.size ∧
    (∀ selection : JointSelection, s.read selection =
      ((s.read .all).drop (selection.offset s.size)).take (selection.size s.size)) ∧
    (∀ field : JointField,
      s.values.get field = ((s.read .all).drop (field.index * s.size)).take s.size) ∧
    (∀ (field : JointField) (index : Nat), s.size ≤ index →
      s.valueAt field index = .error (.jointIndexOutOfRange index s.size) ∧
      ∀ x, (setValueAt field index x).applyTo s =
        (.error (.jointIndexOutOfRange index s.size), s)) ∧
    (∀ (field : JointField) (index : Nat), index < s.size →
      (∃ x, s.valueAt field index = .ok x ∧
        (s.read .all)[field.index * s.size + index]? = some x) ∧
      ∀ x, ∃ values : JointValues α,
        (setValueAt field index x).applyTo s = (.ok (), s.setValues values) ∧
        values.Sized s.size ∧
        ∀ place, ((s.setValues values).read .all)[place]? =
          if place = field.index * s.size + index then some x else (s.read .all)[place]?) ∧
    (∀ joint, joint ∉ s.names → ∀ field,
      s.value field joint = .error (.jointNotFound joint) ∧
      ∀ x, (setValue field joint x).applyTo s = (.error (.jointNotFound joint), s)) ∧
    (∀ joint, joint ∈ s.names → ∃ index < s.size,
      IsLeast { i | s.names[i]? = some joint } index ∧ ∀ field,
        s.value field joint = s.valueAt field index ∧
        ∀ x, (setValue field joint x).applyTo s = (setValueAt field index x).applyTo s) ∧
    (∀ (selection : JointSelection) (data : List α), data.length ≠ selection.size s.size →
      (write selection data).applyTo s =
        (.error (.wrongSize (.jointData selection) (selection.size s.size) data.length), s)) ∧
    (∀ (selection : JointSelection) (data : List α), data.length = selection.size s.size →
      ∃ values : JointValues α,
        (write selection data).applyTo s = (.ok (), s.setValues values) ∧
        values.Sized s.size ∧
        (∀ i < data.length,
          ((s.setValues values).read .all)[selection.offset s.size + i]? = data[i]?) ∧
        ∀ place,
          place < selection.offset s.size ∨ selection.offset s.size + data.length ≤ place →
            ((s.setValues values).read .all)[place]? = (s.read .all)[place]?) ∧
    (s.empty = false → ∃ xs, s.data = .ok xs ∧ (setData xs).applyTo s = (.ok (), s)) := by
  have hlength : (s.read .all).length = 4 * s.size := JointValues.Sized.length_read hs .all
  refine ⟨hlength, JointValues.read_eq_slice hs, JointValues.get_eq_slice hs,
    fun field index h => ?_, fun field index h => ?_, fun joint h field => ?_, fun joint h => ?_,
    fun selection data => JointState.write_refused, fun selection data hdata => ?_,
    fun hfilled => ?_⟩
  · exact ⟨JointState.valueAt_of_le hs field h, JointState.setValueAt_of_le field h⟩
  · obtain ⟨x, hx⟩ := hs.exists_valueAt_iff.mpr h
    refine ⟨⟨x, hx, ((JointState.valueAt_eq_ok_iff hs).mp hx).2⟩, fun x => ?_⟩
    exact ⟨_, JointState.setValueAt_of_lt field h x,
      JointValues.Sized.set hs field ((List.length_set ..).trans (hs field)),
      JointValues.getElem?_read_all_set hs field h x⟩
  · have hnone := JointState.jointIndex_of_notMem h
    refine ⟨JointState.value_of_jointIndex hnone field, fun x => ?_⟩
    rw [JointState.setValue_applyTo, hnone]
  · obtain ⟨index, hindex⟩ := JointState.exists_jointIndex_iff.mpr h
    refine ⟨index, JointState.lt_size_of_jointIndex hindex,
      JointState.jointIndex_eq_ok_iff.mp hindex, fun field => ?_⟩
    refine ⟨JointState.value_of_jointIndex hindex field, fun x => ?_⟩
    rw [JointState.setValue_applyTo, hindex]
  · exact ⟨_, JointState.write_applyTo hdata, JointValues.Sized.write hs hdata,
      fun i => JointValues.getElem?_read_all_write_of_lt hs hdata,
      fun place => JointValues.getElem?_read_all_write_of_outside hs hdata⟩
  · refine ⟨_, JointState.data_eq_ok hfilled, ?_⟩
    have hvalues : s.values.write s.size JointSelection.all.fields (s.read .all) = s.values :=
      JointValues.write_read hs _
    rw [setData, JointState.write_applyTo hlength, hvalues, JointState.setValues_of_filled hfilled]

open JointState (setData setValue setValueAt) in
/-- The name of two joints stands for the first of them. -/
theorem joint_views_share_one_array_elbows :
    let arm : JointState ℕ :=
      { State.new .jointState "arm" ⟨0⟩ with
        empty := false, names := ["elbow", "", "elbow"],
        values := ⟨[1, 2, 3], [4, 5, 6], [7, 8, 9], [10, 11, 12]⟩ }
    arm.Sized ∧ arm.value .velocities "elbow" = .ok 4 ∧
      (∃ values, (setValue .velocities "elbow" 0).applyTo arm = (.ok (), arm.setValues values) ∧
        ((arm.setValues values).read .all)[3]? = some 0 ∧
        ((arm.setValues values).read .all)[5]? = some 6) ∧
      (setValue .velocities "wrist" 0).applyTo arm = (.error (.jointNotFound "wrist"), arm) ∧
      (setValueAt .velocities 3 0).applyTo arm = (.error (.jointIndexOutOfRange 3 3), arm) ∧
      ∃ xs, arm.data = .ok xs ∧ (setData xs).applyTo arm = (.ok (), arm) := by
  intro arm
  have hsized : arm.Sized := by
    intro field
    cases field <;> rfl
  obtain ⟨-, -, -, hrefused, hplace, hunknown, hnamed, -, -, hdata⟩ :=
    joint_views_share_one_array arm hsized
  obtain ⟨index, hlt, hleast, hnamed⟩ := hnamed "elbow" (by decide)
  obtain rfl : index = 0 := Nat.le_zero.mp (hleast.2 rfl)
  obtain ⟨hvalue, hset⟩ := hnamed .velocities
  obtain ⟨values, hvalues, -, hread⟩ := (hplace .velocities 0 hlt).2 0
  exact ⟨hsized, hvalue, ⟨values, (hset 0).trans hvalues, hread 3, hread 5⟩,
    (hunknown "wrist" (by decide) .velocities).2 0, (hrefused .velocities 3 le_rfl).2 0, hdata rfl⟩

end Kinematics
