import Kinematics.Proofs.Joint.Sized
import Kinematics.Proofs.Strict

/-!
# Strict operations on joint states

Every operation once more, with its accesses made strict: indexed reads and writes, slices of flat
data, sums of two lists and products with a matrix. With one number per joint in each field, the
strict operation has an outcome and it is that of the plain one, so no access is out of range and
no two sizes differ.
-/

namespace Kinematics

namespace JointValues
variable {α : Type}

/-- Copies slices of `data` into the fields, the first of them the one at `position`. -/
def strictWrite (size : Nat) (data : List α) :
    Nat → List JointField → JointValues α → Option (JointValues α)
  | _, [], v => some v
  | position, field :: fields, v => do
    let part ← Strict.slice data (position * size) (position * size + size)
    let xs ← Strict.copy (v.get field) part
    strictWrite size data (position + 1) fields (v.set field xs)

/-- Combines the numbers of two states, field by field. -/
def strictZipWith (f : α → α → α) (u v : JointValues α) : Option (JointValues α) :=
  return {
    positions := ← Strict.zipWith f u.positions v.positions
    velocities := ← Strict.zipWith f u.velocities v.velocities
    accelerations := ← Strict.zipWith f u.accelerations v.accelerations
    torques := ← Strict.zipWith f u.torques v.torques }

namespace Sized
variable {u v : JointValues α} {size : Nat}

theorem length_read_fields (h : v.Sized size) (fields : List JointField) :
    (v.read fields).length = fields.length * size := by
  induction fields with
  | nil => simp [JointValues.read]
  | cons field fields ih =>
    have hcons : v.read (field :: fields) = v.get field ++ v.read fields := rfl
    rw [hcons, List.length_append, h field, ih, List.length_cons, Nat.add_mul, Nat.one_mul,
      Nat.add_comm]

theorem length_read (h : v.Sized size) (selection : JointSelection) :
    (v.read selection.fields).length = selection.size size :=
  h.length_read_fields selection.fields

/-- The slice for the field at a position is what the plain write finds at the front. -/
theorem strictWrite_eq_drop (h : v.Sized size) {fields : List JointField} {data : List α}
    {position : Nat} (hdata : data.length = (position + fields.length) * size) :
    strictWrite size data position fields v =
      some (v.write size fields (data.drop (position * size))) := by
  induction fields generalizing v position with
  | nil => rfl
  | cons field fields ih =>
    have hlength : data.length = position * size + size + fields.length * size := by
      rw [hdata, List.length_cons, Nat.add_mul, Nat.add_mul, Nat.one_mul]
      omega
    have hslice : Strict.slice data (position * size) (position * size + size) =
        some ((data.drop (position * size)).take size) := Strict.slice_of_le (by omega)
    have hpart : ((data.drop (position * size)).take size).length = size := by
      rw [List.length_take, List.length_drop]
      omega
    have hcopy := Strict.copy_of_length_eq (hpart.trans (h field).symm)
    have hrest : data.length = (position + 1 + fields.length) * size := by
      rw [hlength, Nat.add_mul, Nat.add_mul, Nat.one_mul]
    have ih := ih (h.set field hpart) hrest
    rw [Nat.add_mul, Nat.one_mul, ← List.drop_drop] at ih
    simp only [strictWrite, hslice, hcopy, Option.bind_eq_bind, Option.bind_some, ih,
      JointValues.write]

theorem strictWrite_eq (h : v.Sized size) {selection : JointSelection} {data : List α}
    (hdata : data.length = selection.size size) :
    strictWrite size data 0 selection.fields v = some (v.write size selection.fields data) := by
  have hfront : data.length = (0 + selection.fields.length) * size := by
    rw [hdata, JointSelection.size, Nat.zero_add]
  have hwrite := h.strictWrite_eq_drop hfront
  rwa [Nat.zero_mul, List.drop_zero] at hwrite

theorem strictZipWith_eq (hu : u.Sized size) (hv : v.Sized size) (f : α → α → α) :
    strictZipWith f u v = some (u.zipWith f v) := by
  have hzip (field : JointField) : Strict.zipWith f (u.get field) (v.get field) =
      some (List.zipWith f (u.get field) (v.get field)) :=
    Strict.zipWith_of_length_eq ((hu field).trans (hv field).symm)
  have hpositions := hzip .positions
  have hvelocities := hzip .velocities
  have haccelerations := hzip .accelerations
  have htorques := hzip .torques
  simp only [get] at hpositions hvelocities haccelerations htorques
  simp [strictZipWith, hpositions, hvelocities, haccelerations, htorques, JointValues.zipWith,
    build, get]

end Sized
end JointValues

namespace JointState
variable {α : Type}

def strictValueAt (s : JointState α) (field : JointField) (index : Nat) : Strict α α := do
  Strict.require (s.checkIndex index)
  Strict.access (Strict.item (s.values.get field) index)

def strictValue (s : JointState α) (field : JointField) (joint : String) : Strict α α := do
  let index ← Strict.require (s.jointIndex joint)
  Strict.access (Strict.item (s.values.get field) index)

def strictSetValueAt (field : JointField) (index : Nat) (x : α) :
    StrictEdit α (JointState α) Unit := do
  let s ← get
  StrictEdit.require (s.checkIndex index)
  let xs ← StrictEdit.access (Strict.replace (s.values.get field) index x)
  set (s.setValues (s.values.set field xs))

/-- The index of a name is used without a check. -/
def strictSetValue (field : JointField) (joint : String) (x : α) :
    StrictEdit α (JointState α) Unit := do
  let s ← get
  let index ← StrictEdit.require (s.jointIndex joint)
  let xs ← StrictEdit.access (Strict.replace (s.values.get field) index x)
  set (s.setValues (s.values.set field xs))

def strictWrite (selection : JointSelection) (data : List α) :
    StrictEdit α (JointState α) Unit := do
  let s ← get
  if data.length ≠ selection.size s.size then
    throw (.wrongSize (.jointData selection) (selection.size s.size) data.length)
  let values ← StrictEdit.access <|
    JointValues.strictWrite s.size data 0 selection.fields s.values
  set (s.setValues values)

section
variable [Scalar α]

def strictClampEach (bounds : List α) (selection : JointSelection) (ratios : List α) :
    StrictEdit α (JointState α) Unit := do
  let s ← get
  StrictEdit.require s.assertFilled
  let size := selection.size s.size
  if bounds.length ≠ size then throw (.wrongSize .maxima size bounds.length)
  if ratios.length ≠ size then throw (.wrongSize .noiseRatios size ratios.length)
  let limits ← StrictEdit.access (Strict.zipWith Prod.mk bounds ratios)
  let clamped ← StrictEdit.access <| Strict.zipWith
    (fun x (bound, ratio) => (ClampAction.of (Scalar.abs x) bound ratio).apply x)
    (s.read selection) limits
  strictWrite selection clamped

def strictClamp (bound : α) (selection : JointSelection) (ratio : α) :
    StrictEdit α (JointState α) Unit := do
  let size := selection.size (← get).size
  strictClampEach (List.replicate size bound) selection (List.replicate size ratio)

def strictMultiply (gain : DenseMatrix α) (selection : JointSelection) :
    StrictEdit α (JointState α) Unit := do
  let s ← get
  StrictEdit.require s.assertFilled
  let size := selection.size s.size
  if gain.rows ≠ size then throw (.wrongSize .gainRows size gain.rows)
  if gain.cols ≠ size then throw (.wrongSize .gainColumns size gain.cols)
  let product ← StrictEdit.access (Strict.mulVec gain (s.read selection))
  strictWrite selection product

def strictMultiplyEach (gain : List α) (selection : JointSelection) :
    StrictEdit α (JointState α) Unit := do
  let s ← get
  StrictEdit.require s.assertFilled
  let size := selection.size s.size
  if gain.length ≠ size then throw (.wrongSize .gainVector size gain.length)
  let product ← StrictEdit.access (Strict.zipWith (· * ·) (s.read selection) gain)
  strictWrite selection product

def strictCombine (sign : α) (a b : JointState α) : Strict α (JointState α) := do
  Strict.require a.assertFilled
  Strict.require b.assertFilled
  Strict.require (a.assertCompatible b)
  let values ← Strict.access <|
    JointValues.strictZipWith (fun x y => x + sign * y) a.values b.values
  return { a with values }

def strictDist (a b : JointState α) (selection : JointSelection) : Strict α α := do
  Strict.require a.assertFilled
  Strict.require b.assertFilled
  Strict.require (a.assertCompatible b)
  let norms ← selection.fields.mapM fun field => do
    let difference ← Strict.access <|
      Strict.zipWith (· - ·) (a.values.get field) (b.values.get field)
    return Scalar.norm difference
  return Scalar.sum norms

namespace Change

def strict : Change α → StrictEdit α (JointState α) Unit
  | setValueAt field index x => strictSetValueAt field index x
  | setValue field joint x => strictSetValue field joint x
  | write selection data => strictWrite selection data
  | clamp bound selection ratio => strictClamp bound selection ratio
  | clampEach bounds selection ratios => strictClampEach bounds selection ratios
  | multiply gain selection => strictMultiply gain selection
  | multiplyEach gain selection => strictMultiplyEach gain selection
  | change => .ofEdit change.edit

end Change

namespace Operation

def strict (s : JointState α) : Operation α → Strict α (JointState α)
  | add other => strictCombine 1 s other
  | sub other => strictCombine (-1) s other
  | scaleByMatrix gain => (strictMultiply gain .all).onCopy s
  | scaleEach gain => (strictMultiplyEach gain .all).onCopy s
  | op => .require (op.apply s)

end Operation

namespace Query

def strict (s : JointState α) : Query α → Strict α (List α)
  | data => .require s.data
  | valueAt field index => return [← s.strictValueAt field index]
  | value field joint => return [← s.strictValue field joint]
  | dist other selection => return [← s.strictDist other selection]

end Query
end

section Follows
variable {s a b : JointState α}

private theorem item_follows (h : s.Sized) (field : JointField) {index : Nat}
    (hindex : index < s.size) :
    (Strict.access (Strict.item (s.values.get field) index)).Follows (s.valueAt field index) := by
  have hitem : (s.values.get field)[index]? = some _ :=
    List.getElem?_eq_getElem ((h field).symm ▸ hindex)
  rw [valueAt, hitem]
  exact .access hitem

theorem strictValueAt_follows (h : s.Sized) (field : JointField) (index : Nat) :
    (s.strictValueAt field index).Follows (s.valueAt field index) := by
  obtain hindex | hout := Nat.lt_or_ge index s.size
  · rw [strictValueAt, checkIndex_eq_ok_iff.mpr hindex]
    exact item_follows h field hindex
  · have hcheck : s.checkIndex index = .error (.jointIndexOutOfRange index s.size) := if_pos hout
    have hnone : (s.values.get field)[index]? = none :=
      List.getElem?_eq_none ((h field).symm ▸ hout)
    rw [strictValueAt, hcheck, valueAt, hnone]
    rfl

theorem strictValue_follows (h : s.Sized) (field : JointField) (joint : String) :
    (s.strictValue field joint).Follows (s.value field joint) :=
  .require_bind fun _ hindex => item_follows h field (lt_size_of_jointIndex hindex)

theorem Sized.replace_eq (h : s.Sized) (field : JointField) {index : Nat} (hindex : index < s.size)
    (x : α) :
    Strict.replace (s.values.get field) index x = some ((s.values.get field).set index x) :=
  Strict.replace_of_lt ((h field).symm ▸ hindex) x

theorem strictSetValueAt_follows (h : s.Sized) (field : JointField) (index : Nat) (x : α) :
    (strictSetValueAt field index x).Follows (setValueAt field index x) s :=
  .get_bind <| .require_bind fun _ hcheck =>
    .access_bind (h.replace_eq field (checkIndex_eq_ok_iff.mp hcheck) x) (.set _)

theorem strictSetValue_follows (h : s.Sized) (field : JointField) (joint : String) (x : α) :
    (strictSetValue field joint x).Follows (setValue field joint x) s := by
  refine .get_bind <| .liftM_bind fun index hindex => ?_
  have hlt := lt_size_of_jointIndex hindex
  refine .access_bind (h.replace_eq field hlt x) ?_
  have hcheck := checkIndex_eq_ok_iff.mpr hlt
  unfold StrictEdit.Follows
  simp [setValueAt, Edit.applyTo_bind, hcheck]
  rfl

theorem strictWrite_follows (h : s.Sized) (selection : JointSelection) (data : List α) :
    (strictWrite selection data).Follows (write selection data) s :=
  .get_bind <| .ite (fun _ => .throw_bind) fun hsize =>
    .access_bind (JointValues.Sized.strictWrite_eq h (Decidable.not_not.mp hsize)) (.set _)

variable [Scalar α]

theorem strictClampEach_follows (h : s.Sized) (bounds : List α) (selection : JointSelection)
    (ratios : List α) :
    (strictClampEach bounds selection ratios).Follows (clampEach bounds selection ratios) s := by
  refine .get_bind <| .require_bind fun _ _ => ?_
  refine .ite (fun _ => .throw_bind) fun hbounds => ?_
  refine .ite (fun _ => .throw_bind) fun hratios => ?_
  have hbounds := Decidable.not_not.mp hbounds
  have hratios := Decidable.not_not.mp hratios
  have hread : (s.read selection).length = selection.size s.size :=
    JointValues.Sized.length_read h selection
  have hzip : (List.zipWith Prod.mk bounds ratios).length = selection.size s.size := by
    rw [List.length_zipWith, hbounds, hratios, Nat.min_self]
  refine .access_bind (Strict.zipWith_of_length_eq (hbounds.trans hratios.symm)) ?_
  refine .access_bind (Strict.zipWith_of_length_eq (hread.trans hzip.symm)) ?_
  exact strictWrite_follows h selection _

theorem strictClamp_follows (h : s.Sized) (bound : α) (selection : JointSelection) (ratio : α) :
    (strictClamp bound selection ratio).Follows (clamp bound selection ratio) s :=
  .get_bind <| strictClampEach_follows h _ selection _

theorem strictMultiply_follows (h : s.Sized) (gain : DenseMatrix α) (selection : JointSelection) :
    (strictMultiply gain selection).Follows (multiply gain selection) s := by
  refine .get_bind <| .require_bind fun _ _ => ?_
  refine .ite (fun _ => .throw_bind) fun _ => ?_
  refine .ite (fun _ => .throw_bind) fun hcols => ?_
  have hread : (s.read selection).length = selection.size s.size :=
    JointValues.Sized.length_read h selection
  have hfits := (Decidable.not_not.mp hcols).trans hread.symm
  exact .access_bind (Strict.mulVec_of_length_eq hfits) (strictWrite_follows h selection _)

theorem strictMultiplyEach_follows (h : s.Sized) (gain : List α) (selection : JointSelection) :
    (strictMultiplyEach gain selection).Follows (multiplyEach gain selection) s := by
  refine .get_bind <| .require_bind fun _ _ => ?_
  refine .ite (fun _ => .throw_bind) fun hgain => ?_
  have hread : (s.read selection).length = selection.size s.size :=
    JointValues.Sized.length_read h selection
  have hfits := hread.trans (Decidable.not_not.mp hgain).symm
  exact .access_bind (Strict.zipWith_of_length_eq hfits) (strictWrite_follows h selection _)

theorem strictCombine_follows (ha : a.Sized) (hb : b.Sized) (sign : α) :
    (strictCombine sign a b).Follows (combine sign a b) := by
  refine .require_bind fun _ _ => .require_bind fun _ _ => .require_bind fun _ hcompatible => ?_
  have hsize : a.values.Sized b.size := size_eq_of_assertCompatible hcompatible ▸ ha
  exact .access_bind (hsize.strictZipWith_eq hb _) (.pure _)

theorem strictDist_follows (ha : a.Sized) (hb : b.Sized) (selection : JointSelection) :
    (strictDist a b selection).Follows (dist a b selection) := by
  refine .require_bind fun _ _ => .require_bind fun _ _ => .require_bind fun _ hcompatible => ?_
  have hsize := size_eq_of_assertCompatible hcompatible
  have hzip (field : JointField) :
      Strict.zipWith (· - ·) (a.values.get field) (b.values.get field) =
        some (List.zipWith (· - ·) (a.values.get field) (b.values.get field)) :=
    Strict.zipWith_of_length_eq ((ha field).trans (hsize.trans (hb field).symm))
  simp only [hzip]
  exact congrArg (fun norms : Strict α (List α) => (Scalar.sum <$> norms).run) (List.mapM_pure ..)

theorem Change.strict_follows (h : s.Sized) (change : Change α) :
    change.strict.Follows change.edit s := by
  cases change with
  | setName | setNames | setEmpty | touch | setZero | clear => exact .ofEdit _
  | setValueAt field index x => exact strictSetValueAt_follows h field index x
  | setValue field joint x => exact strictSetValue_follows h field joint x
  | write selection data => exact strictWrite_follows h selection data
  | clamp bound selection ratio => exact strictClamp_follows h bound selection ratio
  | clampEach bounds selection ratios => exact strictClampEach_follows h bounds selection ratios
  | multiply gain selection => exact strictMultiply_follows h gain selection
  | multiplyEach gain selection => exact strictMultiplyEach_follows h gain selection

theorem Operation.strict_follows (h : s.Sized) {op : Operation α}
    (hoperands : ∀ o ∈ op.operands, o.Sized) : (op.strict s).Follows (op.apply s) := by
  cases op with
  | add other => exact strictCombine_follows h (hoperands other (List.mem_singleton.mpr rfl)) 1
  | sub other => exact strictCombine_follows h (hoperands other (List.mem_singleton.mpr rfl)) (-1)
  | scale | divide | scaleSelection => exact .require _
  | scaleByMatrix gain => exact (strictMultiply_follows h gain .all).onCopy
  | scaleEach gain => exact (strictMultiplyEach_follows h gain .all).onCopy

theorem Query.strict_follows (h : s.Sized) {query : Query α}
    (hoperands : ∀ o ∈ query.operands, o.Sized) : (query.strict s).Follows (query.answer s) := by
  cases query with
  | data => exact .require _
  | valueAt field index => exact (strictValueAt_follows h field index).bind fun _ _ => .pure _
  | value field joint => exact (strictValue_follows h field joint).bind fun _ _ => .pure _
  | dist other selection =>
    have hother := hoperands other (List.mem_singleton.mpr rfl)
    exact (strictDist_follows h hother selection).bind fun _ _ => .pure _

end Follows
end JointState

namespace JointProjection
variable {α β : Type} {field : JointField}

def strictLift (edit : StrictEdit α (JointState α) β) : StrictEdit α (JointProjection α field) β :=
  edit.within general fun s _ => ⟨s⟩

variable [Scalar α]

def strictCarryOver (p : JointProjection α field) (target : JointField) (data : List α)
    (now : Instant) : Strict α (JointProjection α target) :=
  (strictLift (JointState.strictWrite target.selection data)).onCopy
    (new target p.general.name p.general.names now)

def strictRateOfChange (p : JointProjection α field) (target : JointField) (dt : Duration)
    (now : Instant) : Strict α (JointProjection α target) := do
  Strict.require p.general.assertFilled
  let seconds ← Strict.require (p.general.nonzeroSeconds dt)
  p.strictCarryOver target ((p.general.values.get field).map (· / seconds)) now

def strictAccumulated (p : JointProjection α field) (target : JointField) (dt : Duration)
    (now : Instant) : Strict α (JointProjection α target) := do
  Strict.require p.general.assertFilled
  p.strictCarryOver target ((p.general.values.get field).map (· * dt.seconds)) now

namespace Change

def strict : Change α → StrictEdit α (JointProjection α field) Unit
  | clampWith limits => do
    StrictEdit.require limits.validate
    strictLift (JointState.strictClampEach limits.maxima field.selection limits.ratios)
  | change => strictLift (change.general field).strict

end Change

namespace Operation

def strict (p : JointProjection α field) :
    Operation α field → Strict α (JointProjection α field)
  | add other => return (← JointState.strictCombine 1 p.general other.general).project field
  | sub other => return (← JointState.strictCombine (-1) p.general other.general).project field
  | scaleByMatrix gain =>
    (strictLift (JointState.strictMultiply gain field.selection)).onCopy p
  | scaleEach gain => (strictLift (JointState.strictMultiplyEach gain field.selection)).onCopy p
  | clamped bound ratio =>
    (strictLift (JointState.strictClamp bound field.selection ratio)).onCopy p
  | op => .require (op.apply p)

end Operation

section Follows
variable {p : JointProjection α field}

omit [Scalar α] in
theorem strictLift_follows {strict : StrictEdit α (JointState α) β}
    {plain : Edit α (JointState α) β} (h : strict.Follows plain p.general) :
    (strictLift strict : StrictEdit α (JointProjection α field) β).Follows (lift plain) p :=
  .within h

theorem strictCarryOver_follows (target : JointField) (data : List α) (now : Instant) :
    (p.strictCarryOver target data now).Follows (p.carryOver target data now) :=
  (strictLift_follows
    (JointState.strictWrite_follows (sized_new _ _ _ _) target.selection data)).onCopy

theorem strictRateOfChange_follows (target : JointField) (dt : Duration) (now : Instant) :
    (p.strictRateOfChange target dt now).Follows (p.rateOfChange target dt now) :=
  .require_bind fun _ _ => .require_bind fun _ _ => strictCarryOver_follows target _ now

theorem strictAccumulated_follows (target : JointField) (dt : Duration) (now : Instant) :
    (p.strictAccumulated target dt now).Follows (p.accumulated target dt now) :=
  .require_bind fun _ _ => strictCarryOver_follows target _ now

theorem Change.strict_follows (h : p.general.Sized) (change : Change α) :
    change.strict.Follows change.edit p := by
  cases change with
  | setName | setNames | setEmpty | touch | setZero | clear | setData | setValueAt | setValue
  | clamp | clampEach => exact strictLift_follows (JointState.Change.strict_follows h _)
  | clampWith limits =>
    refine .require_bind fun _ _ => strictLift_follows ?_
    exact JointState.strictClampEach_follows h limits.maxima field.selection limits.ratios

theorem Operation.strict_follows (h : p.general.Sized) {op : Operation α field}
    (hoperands : ∀ o ∈ op.operands, o.general.Sized) : (op.strict p).Follows (op.apply p) := by
  cases op with
  | add other =>
    have hother := hoperands other (List.mem_singleton.mpr rfl)
    exact (JointState.strictCombine_follows h hother 1).bind fun _ _ => .pure _
  | sub other =>
    have hother := hoperands other (List.mem_singleton.mpr rfl)
    exact (JointState.strictCombine_follows h hother (-1)).bind fun _ _ => .pure _
  | scale | divide => exact .require _
  | scaleByMatrix gain =>
    exact (strictLift_follows (JointState.strictMultiply_follows h gain field.selection)).onCopy
  | scaleEach gain =>
    exact (strictLift_follows (JointState.strictMultiplyEach_follows h gain field.selection)).onCopy
  | clamped bound ratio =>
    exact (strictLift_follows (JointState.strictClamp_follows h bound field.selection ratio)).onCopy

end Follows
end JointProjection
end Kinematics
