import Kinematics.Proofs.Joint.Strict

/-!
# Flat data and the fields of joints

A selection lays out its fields one after the other, one number per joint each. What is written to a
selection is read back from it, and the other fields are as before.
-/

namespace Kinematics

theorem JointSelection.nodup_fields (selection : JointSelection) : selection.fields.Nodup := by
  cases selection <;> decide

namespace JointValues
variable {α : Type} {u v : JointValues α} {size : Nat} {fields : List JointField}
  {field other : JointField} {data : List α}

@[simp] theorem get_set_self (v : JointValues α) (field : JointField) (xs : List α) :
    (v.set field xs).get field = xs := by
  rw [set, get_build, if_pos rfl]

theorem get_set_of_ne (h : other ≠ field) (xs : List α) :
    (v.set field xs).get other = v.get other := by
  rw [set, get_build, if_neg h]

theorem set_get_self (v : JointValues α) (field : JointField) : v.set field (v.get field) = v := by
  apply ext_get
  intro other
  rw [set, get_build]
  split
  case isTrue heq => rw [heq]
  case isFalse => rfl

theorem read_singleton (v : JointValues α) (field : JointField) : v.read [field] = v.get field :=
  List.flatMap_singleton ..

theorem write_singleton (v : JointValues α) (field : JointField) (h : data.length = size) :
    v.write size [field] data = v.set field data := by
  rw [write, write, List.take_of_length_le (Nat.le_of_eq h)]

theorem get_write_of_notMem (h : field ∉ fields) (size : Nat) (data : List α) :
    (v.write size fields data).get field = v.get field := by
  induction fields generalizing data v with
  | nil => rfl
  | cons first fields ih =>
    obtain ⟨hne, hnotin⟩ := not_or.mp (mt List.mem_cons.mpr h)
    rw [write, ih hnotin, get_set_of_ne hne]

theorem read_write (hlength : data.length = fields.length * size) (hnodup : fields.Nodup)
    (v : JointValues α) : (v.write size fields data).read fields = data := by
  induction fields generalizing data v with
  | nil =>
    rw [List.length_nil, Nat.zero_mul] at hlength
    exact (List.length_eq_zero_iff.mp hlength).symm
  | cons field fields ih =>
    obtain ⟨hnotin, hrest⟩ := List.nodup_cons.mp hnodup
    have hlater : (data.drop size).length = fields.length * size := by
      rw [List.length_drop, hlength, List.length_cons, Nat.succ_mul, Nat.add_sub_cancel]
    have hread (v : JointValues α) : v.read (field :: fields) = v.get field ++ v.read fields := rfl
    rw [write, hread, ih hlater hrest, get_write_of_notMem hnotin, get_set_self,
      List.take_append_drop]

/-- A written field does not depend on what was there. -/
theorem get_write_of_mem (h : field ∈ fields) (size : Nat) (data : List α) (u v : JointValues α) :
    (u.write size fields data).get field = (v.write size fields data).get field := by
  induction fields generalizing data u v with
  | nil => exact absurd h List.not_mem_nil
  | cons first fields ih =>
    rw [write, write]
    by_cases hin : field ∈ fields
    · exact ih hin ..
    · obtain rfl := (List.mem_cons.mp h).resolve_right hin
      rw [get_write_of_notMem hin, get_write_of_notMem hin, get_set_self, get_set_self]

theorem write_write (v : JointValues α) (size : Nat) (fields : List JointField)
    (data data' : List α) :
    (v.write size fields data).write size fields data' = v.write size fields data' := by
  apply ext_get
  intro field
  by_cases hin : field ∈ fields
  · exact get_write_of_mem hin ..
  · rw [get_write_of_notMem hin, get_write_of_notMem hin, get_write_of_notMem hin]

theorem write_read (h : v.Sized size) (fields : List JointField) :
    v.write size fields (v.read fields) = v := by
  induction fields with
  | nil => rfl
  | cons field fields ih =>
    have hread : v.read (field :: fields) = v.get field ++ v.read fields := rfl
    have hfirst : v.write size (field :: fields) (v.get field ++ v.read fields) =
        (v.set field (v.get field)).write size fields (v.read fields) := by
      rw [write, ← h field, List.take_left, List.drop_left]
    rw [hread, hfirst, set_get_self, ih]

/-- What differs in the fields only is obtained by writing them. -/
theorem write_read_of_eq (hu : u.Sized size)
    (h : ∀ field, field ∉ fields → v.get field = u.get field) :
    v.write size fields (u.read fields) = u := by
  apply ext_get
  intro field
  by_cases hin : field ∈ fields
  · rw [get_write_of_mem hin size _ v u, write_read hu]
  · rw [get_write_of_notMem hin, h field hin]

end JointValues

namespace JointState
variable {α : Type} {s : JointState α} {selection : JointSelection} {data : List α}

theorem Sized.length_read (hs : s.Sized) (selection : JointSelection) :
    (s.read selection).length = selection.size s.size :=
  JointValues.Sized.length_read hs selection

theorem write_applyTo (hlength : data.length = selection.size s.size) :
    (write selection data).applyTo s =
      (.ok (), s.setValues (s.values.write s.size selection.fields data)) := by
  rw [write, Edit.applyTo_bind, Edit.applyTo_get]
  dsimp only
  rw [if_neg (Classical.not_not.mpr hlength)]
  rfl

theorem write_refused (hlength : data.length ≠ selection.size s.size) :
    (write selection data).applyTo s =
      (.error (.wrongSize (.jointData selection) (selection.size s.size) data.length), s) := by
  rw [write, Edit.applyTo_bind, Edit.applyTo_get]
  dsimp only
  rw [if_pos hlength]
  exact Edit.applyTo_bind ..

theorem setValues_of_filled (hs : s.empty = false) (values : JointValues α) :
    s.setValues values = { s with values } := by
  rw [setValues, ← hs]

theorem data_eq_ok (hs : s.empty = false) : s.data = .ok (s.read .all) := by
  rw [data, State.assertFilled_eq_ok hs]
  rfl

end JointState
end Kinematics
