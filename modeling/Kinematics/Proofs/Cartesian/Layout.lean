import Kinematics.Proofs.Cartesian.Orientation

/-!
# Flat data and its fields

A selection lays out the numbers of its fields one after the other, three for a vector and four for
the orientation. What is written to a selection is read back, field by field, from every selection
that shares fields with it, and all other fields are as before.
-/

namespace Kinematics

/-- The quaternion with the given coefficients; missing ones are zero. -/
def Quaternion.ofList {α : Type} [Zero α] (xs : List α) : Quaternion α :=
  ⟨xs.getD 0 0, xs.getD 1 0, xs.getD 2 0, xs.getD 3 0⟩

theorem Quaternion.unit_eq_ok_iff {α : Type} [Scalar α] {q u : Quaternion α} :
    q.unit = .ok u ↔ Scalar.squaredNormEpsilon < q.normSq ∧ q.normalize = u := by
  unfold unit normalize?
  split
  case h_1 v hv =>
    split at hv
    case isTrue hlarge =>
      rw [Option.some.inj hv, Except.ok.injEq, and_iff_right hlarge]
    case isFalse => cases hv
  case h_2 hnone =>
    split at hnone
    case isTrue => cases hnone
    case isFalse hsmall => exact iff_of_false nofun fun h => hsmall h.1

namespace CartesianField
variable {α : Type}

/-- The place of the field's first number in flat data for the fields. -/
def offset (fields : List CartesianField) (field : CartesianField) : Nat :=
  ((fields.takeWhile (· ≠ field)).map size).sum

/-- The numbers of the field in flat data for the fields. -/
def slice (fields : List CartesianField) (data : List α) (field : CartesianField) : List α :=
  (data.drop (offset fields field)).take field.size

/-- What a write to the fields stores in one of them: its numbers, and of a quaternion the
coefficients divided by the norm. -/
def stored [Scalar α] (fields : List CartesianField) (data : List α) : CartesianField → List α
  | orientation => (Quaternion.ofList (slice fields data orientation)).normalize.toList
  | vector field => slice fields data (vector field)

section Slice
variable {fields : List CartesianField} {field other : CartesianField} {xs data : List α}

theorem offset_cons_self (fields : List CartesianField) (field : CartesianField) :
    offset (field :: fields) field = 0 := by
  simp [offset]

theorem offset_cons_of_ne (h : other ≠ field) :
    offset (other :: fields) field = other.size + offset fields field := by
  simp [offset, h]

theorem slice_cons_self (hxs : xs.length = field.size) :
    slice (field :: fields) (xs ++ data) field = xs := by
  rw [slice, offset_cons_self, List.drop_zero, ← hxs, List.take_left]

theorem slice_cons_of_ne (hxs : xs.length = other.size) (h : other ≠ field) :
    slice (other :: fields) (xs ++ data) field = slice fields data field := by
  rw [slice, offset_cons_of_ne h, ← hxs, List.drop_length_add_append, slice]

theorem stored_cons_of_ne [Scalar α] (hxs : xs.length = other.size) (h : other ≠ field) :
    stored (other :: fields) (xs ++ data) field = stored fields data field := by
  cases field with
  | orientation => rw [stored, stored, slice_cons_of_ne hxs h]
  | vector field => rw [stored, stored, slice_cons_of_ne hxs h]

/-- The slices of the fields make up the data. -/
theorem flatMap_slice (hlength : data.length = (fields.map size).sum) (hnodup : fields.Nodup) :
    fields.flatMap (slice fields data) = data := by
  induction fields generalizing data with
  | nil => exact (List.length_eq_zero_iff.mp hlength).symm
  | cons first fields ih =>
    obtain ⟨hnotin, hrest⟩ := List.nodup_cons.mp hnodup
    rw [List.map_cons, List.sum_cons] at hlength
    have hfirst : (data.take first.size).length = first.size := by
      rw [List.length_take]
      omega
    have hlater : (data.drop first.size).length = (fields.map size).sum := by
      rw [List.length_drop]
      omega
    have hsame : ∀ field ∈ fields,
        slice (first :: fields) data field = slice fields (data.drop first.size) field := by
      intro field hin
      have hne : first ≠ field := fun heq => hnotin (heq ▸ hin)
      calc slice (first :: fields) data field
          = slice (first :: fields) (data.take first.size ++ data.drop first.size) field := by
            rw [List.take_append_drop]
        _ = slice fields (data.drop first.size) field := slice_cons_of_ne hfirst hne
    rw [List.flatMap_cons, List.flatMap_congr hsame, ih hlater hrest, slice, offset_cons_self,
      List.drop_zero, List.take_append_drop]

end Slice
end CartesianField

theorem CartesianSelection.size_eq_sum (selection : CartesianSelection) :
    selection.size = (selection.fields.map CartesianField.size).sum := by
  cases selection <;> rfl

theorem CartesianSelection.nodup_fields (selection : CartesianSelection) :
    selection.fields.Nodup := by
  cases selection <;> decide

namespace CartesianValues
open CartesianField (size slice slice_cons_of_ne slice_cons_self stored stored_cons_of_ne)
variable {α : Type} {u v : CartesianValues α} {fields : List CartesianField}
  {field : CartesianField} {data : List α}

/-- The numbers of a field. -/
def numbers (v : CartesianValues α) : CartesianField → List α
  | .orientation => v.orientation.toList
  | .vector field => (v.vector field).toList

theorem length_numbers (v : CartesianValues α) (field : CartesianField) :
    (v.numbers field).length = field.size := by
  cases field <;> rfl

theorem read_eq_flatMap (v : CartesianValues α) (fields : List CartesianField) :
    v.read fields = fields.flatMap v.numbers := by
  apply List.flatMap_congr
  intro field _
  cases field <;> rfl

theorem ext_numbers (h : ∀ field, u.numbers field = v.numbers field) : u = v := by
  apply ext_vector
  · have horientation := h .orientation
    simp only [numbers, Quaternion.toList, List.cons.injEq, and_true] at horientation
    exact Quaternion.ext horientation.1 horientation.2.1 horientation.2.2.1 horientation.2.2.2
  · intro field
    have hvector := h (.vector field)
    simp only [numbers, Vector3.toList, List.cons.injEq, and_true] at hvector
    exact Vector3.ext hvector.1 hvector.2.1 hvector.2.2

theorem numbers_setVector_self (v : CartesianValues α) (field : VectorField) (x : Vector3 α) :
    (v.setVector field x).numbers (.vector field) = x.toList := by
  rw [numbers, vector_setVector_self]

theorem numbers_setVector_of_ne {other : VectorField} (h : .vector other ≠ field)
    (x : Vector3 α) : (v.setVector other x).numbers field = v.numbers field := by
  cases field with
  | orientation => rfl
  | vector field =>
    have hne : field ≠ other := fun heq => h (congrArg CartesianField.vector heq.symm)
    rw [numbers, vector_setVector_of_ne hne, numbers]

theorem numbers_setOrientation_of_ne (h : .orientation ≠ field) (q : Quaternion α) :
    (v.setOrientation q).numbers field = v.numbers field := by
  cases field with
  | orientation => exact absurd rfl h
  | vector field => rw [numbers, vector_setOrientation, numbers]

/-- The slice of a field in what is read is the field. -/
theorem slice_read (v : CartesianValues α) (hin : field ∈ fields) :
    slice fields (v.read fields) field = v.numbers field := by
  rw [read_eq_flatMap]
  induction fields with
  | nil => exact absurd hin List.not_mem_nil
  | cons other fields ih =>
    rw [List.flatMap_cons]
    by_cases h : other = field
    · rw [h]
      exact slice_cons_self (v.length_numbers field)
    · rw [slice_cons_of_ne (v.length_numbers other) h]
      exact ih (List.mem_of_ne_of_mem (Ne.symm h) hin)

section Data
variable {n : Nat}

theorem exists_vector_append (h : data.length = 3 + n) :
    ∃ (p : Vector3 α) (rest : List α), data = p.toList ++ rest ∧ rest.length = n := by
  match data, h with
  | x :: y :: z :: rest, h =>
    refine ⟨⟨x, y, z⟩, rest, rfl, ?_⟩
    simp only [List.length_cons] at h
    omega
  | [], h | [_], h | [_, _], h =>
    simp only [List.length_cons, List.length_nil] at h
    omega

theorem exists_quaternion_append (h : data.length = 4 + n) :
    ∃ (q : Quaternion α) (rest : List α), data = q.toList ++ rest ∧ rest.length = n := by
  match data, h with
  | w :: x :: y :: z :: rest, h =>
    refine ⟨⟨w, x, y, z⟩, rest, rfl, ?_⟩
    simp only [List.length_cons] at h
    omega
  | [], h | [_], h | [_, _], h | [_, _, _], h =>
    simp only [List.length_cons, List.length_nil] at h
    omega

end Data

section Write
variable [Scalar α]

theorem write_nil (data : List α) (v : CartesianValues α) : write [] data v = .ok v := by
  simp [write]

theorem write_vector (field : VectorField) (p : Vector3 α) (data : List α)
    (v : CartesianValues α) :
    write (.vector field :: fields) (p.toList ++ data) v =
      write fields data (v.setVector field p) := by
  rw [Vector3.toList, List.cons_append, List.cons_append, List.cons_append, List.nil_append, write]

theorem write_orientation (q : Quaternion α) (data : List α) (v : CartesianValues α) :
    write (.orientation :: fields) (q.toList ++ data) v =
      q.unit >>= fun u => write fields data (v.setOrientation u) := by
  rw [Quaternion.toList, List.cons_append, List.cons_append, List.cons_append, List.cons_append,
    List.nil_append, write]

theorem exists_write_eq_ok_iff (hlength : data.length = (fields.map size).sum)
    (hnodup : fields.Nodup) (v : CartesianValues α) :
    (∃ u, write fields data v = .ok u) ↔ (.orientation ∈ fields →
      Scalar.squaredNormEpsilon < (Quaternion.ofList (slice fields data .orientation)).normSq) := by
  induction fields generalizing data v with
  | nil => exact iff_of_true ⟨v, write_nil data v⟩ fun hin => absurd hin List.not_mem_nil
  | cons first fields ih =>
    obtain ⟨hnotin, hrest⟩ := List.nodup_cons.mp hnodup
    rw [List.map_cons, List.sum_cons] at hlength
    cases first with
    | vector first =>
      obtain ⟨p, rest, rfl, hsum⟩ := exists_vector_append hlength
      rw [write_vector, ih hsum hrest, slice_cons_of_ne rfl (by simp)]
      simp
    | orientation =>
      obtain ⟨q, rest, rfl, hsum⟩ := exists_quaternion_append hlength
      have hslice : slice (.orientation :: fields) (q.toList ++ rest) .orientation = q.toList :=
        slice_cons_self rfl
      have hq : Quaternion.ofList q.toList = q := rfl
      rw [write_orientation, hslice, hq]
      constructor
      · rintro ⟨u, hu⟩ -
        obtain ⟨unit, hunit, -⟩ := exists_of_bind_eq_ok hu
        exact (Quaternion.unit_eq_ok_iff.mp hunit).1
      · intro hlarge
        have hunit := Quaternion.unit_eq_ok_iff.mpr ⟨hlarge List.mem_cons_self, rfl⟩
        rw [hunit]
        exact exists_write_eq_ok hnotin rest _

/-- The written fields hold what stands at their places in the data, and all others are as
before. -/
theorem numbers_write (hlength : data.length = (fields.map size).sum) (hnodup : fields.Nodup)
    (h : write fields data v = .ok u) (field : CartesianField) :
    u.numbers field = if field ∈ fields then stored fields data field else v.numbers field := by
  induction fields generalizing data v with
  | nil =>
    rw [write_nil] at h
    cases h
    rw [if_neg List.not_mem_nil]
  | cons first fields ih =>
    obtain ⟨hnotin, hrest⟩ := List.nodup_cons.mp hnodup
    rw [List.map_cons, List.sum_cons] at hlength
    cases first with
    | vector first =>
      obtain ⟨p, rest, rfl, hsum⟩ := exists_vector_append hlength
      rw [write_vector] at h
      rw [ih hsum hrest h]
      by_cases hfield : .vector first = field
      · subst hfield
        rw [if_neg hnotin, if_pos List.mem_cons_self, numbers_setVector_self, stored,
          slice_cons_self rfl]
      · rw [stored_cons_of_ne rfl hfield, numbers_setVector_of_ne hfield]
        simp [Ne.symm hfield]
    | orientation =>
      obtain ⟨q, rest, rfl, hsum⟩ := exists_quaternion_append hlength
      rw [write_orientation] at h
      obtain ⟨unit, hunit, h⟩ := exists_of_bind_eq_ok h
      rw [ih hsum hrest h]
      by_cases hfield : .orientation = field
      · subst hfield
        rw [if_neg hnotin, if_pos List.mem_cons_self, stored, slice_cons_self rfl]
        exact congrArg Quaternion.toList (Quaternion.unit_eq_ok_iff.mp hunit).2.symm
      · rw [stored_cons_of_ne rfl hfield, numbers_setOrientation_of_ne hfield]
        simp [Ne.symm hfield]

theorem read_write (hlength : data.length = (fields.map size).sum) (hnodup : fields.Nodup)
    (hout : .orientation ∉ fields) (h : write fields data v = .ok u) : u.read fields = data := by
  have hstored : ∀ field ∈ fields, u.numbers field = slice fields data field := by
    intro field hin
    rw [numbers_write hlength hnodup h, if_pos hin]
    cases field with
    | orientation => exact absurd hin hout
    | vector field => rfl
  rw [read_eq_flatMap, List.flatMap_congr hstored, CartesianField.flatMap_slice hlength hnodup]

/-- The fields as they are after writing back what was read: only the quaternion is touched. -/
def rewritten (v : CartesianValues α) (fields : List CartesianField) : CartesianValues α :=
  if .orientation ∈ fields then v.setOrientation v.orientation.normalize else v

theorem write_read_eq_ok_iff (hlength : (v.read fields).length = (fields.map size).sum)
    (hnodup : fields.Nodup) :
    write fields (v.read fields) v = .ok u ↔
      (.orientation ∈ fields → Scalar.squaredNormEpsilon < v.orientation.normSq) ∧
        u = v.rewritten fields := by
  have hquaternion (hin : .orientation ∈ fields) :
      Quaternion.ofList (slice fields (v.read fields) .orientation) = v.orientation :=
    congrArg Quaternion.ofList (slice_read v hin)
  have hexists : (∃ u, write fields (v.read fields) v = .ok u) ↔
      (.orientation ∈ fields → Scalar.squaredNormEpsilon < v.orientation.normSq) := by
    rw [exists_write_eq_ok_iff hlength hnodup]
    exact forall_congr' fun hin => by rw [hquaternion hin]
  have hunique {u : CartesianValues α} (h : write fields (v.read fields) v = .ok u) :
      u = v.rewritten fields := by
    apply ext_numbers
    intro field
    rw [numbers_write hlength hnodup h, rewritten]
    cases field with
    | orientation =>
      split
      case isTrue hin =>
        rw [stored, hquaternion hin]
        rfl
      case isFalse => rfl
    | vector field =>
      have hvector : (if .orientation ∈ fields then v.setOrientation v.orientation.normalize
          else v).numbers (.vector field) = v.numbers (.vector field) := by
        split
        case isTrue => exact numbers_setOrientation_of_ne (by simp) _
        case isFalse => rfl
      rw [hvector, stored]
      split
      case isTrue hin => exact slice_read v hin
      case isFalse => rfl
  constructor
  · intro h
    exact ⟨hexists.mp ⟨u, h⟩, hunique h⟩
  · rintro ⟨hlarge, rfl⟩
    obtain ⟨u, hu⟩ := hexists.mpr hlarge
    rw [hu, hunique hu]

end Write
end CartesianValues

namespace CartesianState
variable {α : Type} [Scalar α] {s t : CartesianState α} {selection : CartesianSelection}

theorem write_eq_ok_iff {data : List α} :
    (write selection data).applyTo s = (.ok (), t) ↔ data.length = selection.size ∧
      ∃ values, CartesianValues.write selection.fields data s.values = .ok values ∧
        t = s.setValues values := by
  rw [write_applyTo]
  by_cases hsize : data.length = selection.size
  · rw [if_neg (not_not.mpr hsize), and_iff_right hsize]
    cases CartesianValues.write selection.fields data s.values with
    | error e => simp
    | ok values => simp [eq_comm]
  · rw [if_pos hsize]
    simp [hsize]

omit [Scalar α] in
theorem setValues_of_filled (hs : s.empty = false) (values : CartesianValues α) :
    s.setValues values = { s with values } := by
  rw [setValues, ← hs]

/-- What a filled state answers can be written back unless its quaternion is too small. -/
theorem write_read_eq_ok_iff (hs : s.empty = false) :
    (write selection (s.read selection)).applyTo s = (.ok (), t) ↔
      (.orientation ∈ selection.fields →
        Scalar.squaredNormEpsilon < s.values.orientation.normSq) ∧
      t = { s with values := s.values.rewritten selection.fields } := by
  have hlength := s.length_read selection
  rw [write_eq_ok_iff, and_iff_right hlength]
  rw [selection.size_eq_sum] at hlength
  simp only [setValues_of_filled hs]
  constructor
  · rintro ⟨values, hvalues, rfl⟩
    obtain ⟨hlarge, rfl⟩ :=
      (CartesianValues.write_read_eq_ok_iff hlength selection.nodup_fields).mp hvalues
    exact ⟨hlarge, rfl⟩
  · rintro ⟨hlarge, rfl⟩
    exact ⟨_, (CartesianValues.write_read_eq_ok_iff hlength selection.nodup_fields).mpr
      ⟨hlarge, rfl⟩, rfl⟩

omit [Scalar α] in
theorem data_eq_ok (hs : s.empty = false) : s.data = .ok (s.read .all) := by
  rw [data, State.assertFilled_eq_ok hs]
  rfl

theorem setData_read_eq_ok_iff (hs : s.empty = false) :
    (setData (s.read .all)).applyTo s = (.ok (), t) ↔
      Scalar.squaredNormEpsilon < s.values.orientation.normSq ∧
        t = s.setOrientation s.values.orientation.normalize := by
  have hall : .orientation ∈ CartesianSelection.all.fields := by decide
  rw [setData, write_read_eq_ok_iff hs, forall_prop_of_true hall, CartesianValues.rewritten,
    if_pos hall, setOrientation, setValues_of_filled hs]

theorem exists_write_eq_ok_iff {data : List α} :
    (∃ t, (write selection data).applyTo s = (.ok (), t)) ↔
      data.length = selection.size ∧ (.orientation ∈ selection.fields →
        Scalar.squaredNormEpsilon < (Quaternion.ofList
          (CartesianField.slice selection.fields data .orientation)).normSq) := by
  simp only [write_eq_ok_iff, exists_and_left]
  refine and_congr_right fun hlength => ?_
  rw [selection.size_eq_sum] at hlength
  rw [← CartesianValues.exists_write_eq_ok_iff hlength selection.nodup_fields s.values]
  constructor
  · rintro ⟨t, values, hvalues, -⟩
    exact ⟨values, hvalues⟩
  · rintro ⟨values, hvalues⟩
    exact ⟨_, values, hvalues, rfl⟩

theorem read_of_write {written : CartesianSelection} {data : List α}
    (h : (write written data).applyTo s = (.ok (), t)) (selection : CartesianSelection) :
    t.read selection = selection.fields.flatMap fun field =>
      if field ∈ written.fields then CartesianField.stored written.fields data field
      else s.values.numbers field := by
  obtain ⟨hlength, values, hvalues, rfl⟩ := write_eq_ok_iff.mp h
  rw [written.size_eq_sum] at hlength
  rw [read, CartesianValues.read_eq_flatMap]
  apply List.flatMap_congr
  intro field _
  exact CartesianValues.numbers_write hlength written.nodup_fields hvalues field

end CartesianState

namespace CartesianProjection
variable {α : Type} {kind : CartesianKind} {p q : CartesianProjection α kind}

theorem lift_eq_ok_iff {edit : Edit α (CartesianState α) Unit} :
    (lift edit).applyTo p = (.ok (), q) ↔ edit.applyTo p.general = (.ok (), q.general) := by
  obtain ⟨s⟩ := p
  obtain ⟨t⟩ := q
  rw [lift, Edit.applyTo_within, Prod.mk.injEq, Prod.ext_iff, CartesianProjection.mk.injEq]

theorem data_eq_ok (hp : p.general.empty = false) :
    p.data = .ok (p.general.read kind.selection) := by
  rw [data, State.assertFilled_eq_ok hp]
  rfl

theorem setData_read_eq_ok_iff [Scalar α] (hp : p.general.empty = false) :
    (setData (p.general.read kind.selection)).applyTo p = (.ok (), q) ↔
      (.orientation ∈ kind.selection.fields →
        Scalar.squaredNormEpsilon < p.general.values.orientation.normSq) ∧
      q = p.map fun s => { s with values := s.values.rewritten kind.selection.fields } := by
  obtain ⟨t⟩ := q
  rw [setData, lift_eq_ok_iff, CartesianState.write_read_eq_ok_iff hp, map,
    CartesianProjection.mk.injEq]

end CartesianProjection

theorem CartesianPose.setData_read_eq_ok_iff {α : Type} [Scalar α] {p q : CartesianPose α}
    (hp : p.general.empty = false) :
    (CartesianProjection.setData (p.general.read CartesianKind.pose.selection)).applyTo p =
        (.ok (), q) ↔
      Scalar.squaredNormEpsilon < p.general.values.orientation.normSq ∧
        q = setOrientation p p.general.values.orientation.normalize := by
  have hpose : .orientation ∈ CartesianKind.pose.selection.fields := by decide
  rw [CartesianProjection.setData_read_eq_ok_iff hp, forall_prop_of_true hpose, setOrientation,
    CartesianProjection.map, CartesianProjection.map, CartesianValues.rewritten, if_pos hpose,
    CartesianState.setOrientation, CartesianState.setValues_of_filled hp]

theorem CartesianScrew.setData_read {α : Type} [Scalar α] {kind : ScrewKind}
    {p : CartesianScrew α kind} (hp : p.general.empty = false) :
    (CartesianProjection.setData (p.general.read (CartesianKind.screw kind).selection)).applyTo p =
      (.ok (), p) := by
  have hout : .orientation ∉ (CartesianKind.screw kind).selection.fields := by
    simp [kind.fields_selection]
  refine (CartesianProjection.setData_read_eq_ok_iff hp).mpr ⟨fun hin => absurd hin hout, ?_⟩
  simp only [CartesianValues.rewritten, if_neg hout]
  rfl

/-- A quaternion of norm one is large enough, and dividing by its norm does not change it. -/
theorem CartesianValues.rewritten_eq_self {v : CartesianValues ℝ} (h : v.orientation.norm = 1)
    (fields : List CartesianField) :
    (.orientation ∈ fields → Scalar.squaredNormEpsilon < v.orientation.normSq) ∧
      v = v.rewritten fields := by
  have hrotation := Quaternion.isRotation_iff_norm.mpr h
  constructor
  · intro _
    have hone : v.orientation.normSq = 1 := hrotation
    rw [hone]
    norm_num [Scalar.squaredNormEpsilon]
  · rw [rewritten, hrotation.normalize_eq]
    split
    case isTrue => rfl
    case isFalse => rfl

open CartesianField (slice stored) in
/-- A write of as many numbers as the selected fields hold succeeds unless it sets a quaternion that
is too small. It is read back from all selections, and nothing else of the state changes but that it
is filled. So what a state or a projection answers restores it when it is written back, and of a
quaternion that is not a unit it restores the direction. -/
theorem written_numbers_are_read_back :
    (∀ {α : Type} [Scalar α] (s : CartesianState α) (written : CartesianSelection)
        (data : List α),
      ((∃ t, (CartesianState.write written data).applyTo s = (.ok (), t)) ↔
        data.length = written.size ∧ (.orientation ∈ written.fields →
          Scalar.squaredNormEpsilon <
            (Quaternion.ofList (slice written.fields data .orientation)).normSq)) ∧
      ∀ t, (CartesianState.write written data).applyTo s = (.ok (), t) →
        (∀ selection : CartesianSelection, t.read selection =
          selection.fields.flatMap fun field =>
            if field ∈ written.fields then stored written.fields data field
            else s.values.numbers field) ∧
        t.toSpatialState = { s.toSpatialState with empty := false }) ∧
    (∀ {α : Type} [Scalar α] (s : CartesianState α), s.empty = false →
      ∃ xs, s.data = .ok xs ∧ ∀ t, (CartesianState.setData xs).applyTo s = (.ok (), t) ↔
        Scalar.squaredNormEpsilon < s.values.orientation.normSq ∧
          t = s.setOrientation s.values.orientation.normalize) ∧
    (∀ {α : Type} [Scalar α] (p : CartesianPose α), p.general.empty = false →
      ∃ xs, p.data = .ok xs ∧ ∀ q, (CartesianProjection.setData xs).applyTo p = (.ok (), q) ↔
        Scalar.squaredNormEpsilon < p.general.values.orientation.normSq ∧
          q = CartesianPose.setOrientation p p.general.values.orientation.normalize) ∧
    (∀ {α : Type} [Scalar α] {kind : ScrewKind} (p : CartesianScrew α kind),
      p.general.empty = false → ∃ xs, p.data = .ok xs ∧
        (CartesianProjection.setData xs).applyTo p = (.ok (), p)) ∧
    (∀ s : CartesianState ℝ, s.empty = false → s.values.orientation.norm = 1 →
      ∃ xs, s.data = .ok xs ∧ (CartesianState.setData xs).applyTo s = (.ok (), s)) ∧
    ∀ p : CartesianPose ℝ, p.general.empty = false → p.general.values.orientation.norm = 1 →
      ∃ xs, p.data = .ok xs ∧ (CartesianProjection.setData xs).applyTo p = (.ok (), p) := by
  refine ⟨fun s written data => ⟨CartesianState.exists_write_eq_ok_iff, fun t ht => ⟨?_, ?_⟩⟩,
    fun s hs => ?_, fun p hp => ?_, fun p hp => ?_, fun s hs hunit => ?_, fun p hp hunit => ?_⟩
  · exact CartesianState.read_of_write ht
  · obtain ⟨-, values, -, rfl⟩ := CartesianState.write_eq_ok_iff.mp ht
    rfl
  · exact ⟨_, CartesianState.data_eq_ok hs, fun t => CartesianState.setData_read_eq_ok_iff hs⟩
  · exact ⟨_, CartesianProjection.data_eq_ok hp, fun q => CartesianPose.setData_read_eq_ok_iff hp⟩
  · exact ⟨_, CartesianProjection.data_eq_ok hp, CartesianScrew.setData_read hp⟩
  · obtain ⟨hlarge, heq⟩ := CartesianValues.rewritten_eq_self hunit CartesianSelection.all.fields
    refine ⟨_, CartesianState.data_eq_ok hs, ?_⟩
    exact (CartesianState.write_read_eq_ok_iff hs).mpr ⟨fun _ => hlarge (by decide), by rw [← heq]⟩
  · obtain ⟨hlarge, heq⟩ := CartesianValues.rewritten_eq_self hunit CartesianKind.pose.selection.fields
    refine ⟨_, CartesianProjection.data_eq_ok hp, ?_⟩
    exact (CartesianProjection.setData_read_eq_ok_iff hp).mpr ⟨hlarge, by
      rw [CartesianProjection.map, ← heq]⟩

theorem written_numbers_are_read_back_tilted :
    let arm : CartesianState ℝ := .identity "arm" "base" ⟨0⟩
    (∃ t, (CartesianState.write .pose [1, 2, 3, 0, 3, 0, 4]).applyTo arm = (.ok (), t) ∧
      t.read .pose = [1, 2, 3, 0, 3 / 5, 0, 4 / 5] ∧ t.read .wrench = [0, 0, 0, 0, 0, 0] ∧
      t.toSpatialState = arm.toSpatialState) ∧
    (¬∃ t, (CartesianState.write .pose [1, 2, 3, 0, 0, 0, 0]).applyTo arm = (.ok (), t)) ∧
    (∃ xs, arm.data = .ok xs ∧ (CartesianState.setData xs).applyTo arm = (.ok (), arm)) ∧
    (∃ xs, (arm.project .pose).data = .ok xs ∧
      (CartesianProjection.setData xs).applyTo (arm.project .pose) =
        (.ok (), arm.project .pose)) ∧
    ∃ xs, (arm.project (.screw .twist)).data = .ok xs ∧
      (CartesianProjection.setData xs).applyTo (arm.project (.screw .twist)) =
        (.ok (), arm.project (.screw .twist)) := by
  intro arm
  obtain ⟨hwrite, -, -, hscrew, hstate, hpose⟩ := written_numbers_are_read_back
  have hunit : arm.values.orientation.norm = 1 :=
    Quaternion.isRotation_iff_norm.mp Quaternion.IsRotation.identity
  refine ⟨?_, ?_, hstate arm rfl hunit, hpose (arm.project .pose) rfl hunit,
    hscrew (arm.project (.screw .twist)) rfl⟩
  · have hnormSq : (Quaternion.mk 0 3 0 4 : Quaternion ℝ).normSq = 25 := by
      norm_num [Quaternion.normSq, Quaternion.dot]
    have hlarge : Scalar.squaredNormEpsilon < (Quaternion.mk 0 3 0 4 : Quaternion ℝ).normSq := by
      rw [hnormSq]
      norm_num [Scalar.squaredNormEpsilon]
    have hnorm : (Quaternion.mk 0 3 0 4 : Quaternion ℝ).norm = 5 := by
      rw [Quaternion.norm, hnormSq, Scalar.sqrt_eq, Real.sqrt_eq_iff_mul_self_eq] <;> norm_num
    obtain ⟨hexists, hread⟩ := hwrite arm .pose [1, 2, 3, 0, 3, 0, 4]
    obtain ⟨t, ht⟩ := hexists.mpr ⟨rfl, fun _ => hlarge⟩
    obtain ⟨hread, hstate⟩ := hread t ht
    have hpose : t.read .pose =
        [1, 2, 3] ++ (Quaternion.mk 0 3 0 4 : Quaternion ℝ).normalize.toList := hread .pose
    refine ⟨t, ht, ?_, hread .wrench, hstate⟩
    rw [hpose, Quaternion.normalize, hnorm, zero_div]
    rfl
  · rw [(hwrite arm .pose [1, 2, 3, 0, 0, 0, 0]).1]
    rintro ⟨-, hlarge⟩
    have hzero : (Scalar.squaredNormEpsilon : ℝ) < (Quaternion.mk 0 0 0 0).normSq :=
      hlarge (by decide)
    norm_num [Scalar.squaredNormEpsilon, Quaternion.normSq, Quaternion.dot] at hzero

end Kinematics
