import Kinematics.Joint.Calculus
import Kinematics.Proofs.Edit

/-!
# Operations on joint states

All that changes a joint state or one of its projections in place, all that yields another one of
the same kind, and all that reads numbers, as data. A change that is refused leaves the state as it
was, and what one that succeeds may leave behind is said once, for all properties of joint states
that are to be kept.
-/

namespace Kinematics

namespace JointState
variable {α : Type}

/-- `t` is `s` with other numbers, one per joint, in the selected fields. -/
def Rewritten (s : JointState α) (selection : JointSelection) (t : JointState α) : Prop :=
  ∃ data : List α, data.length = selection.size s.size ∧
    t = s.setValues (s.values.write s.size selection.fields data)

/-- `t` is `s` with another number for one of the joints in a field. -/
def RewrittenAt (s : JointState α) (field : JointField) (x : α) (t : JointState α) : Prop :=
  ∃ index < s.size, t = s.setValues (s.values.set field ((s.values.get field).set index x))

theorem checkIndex_eq_ok_iff {s : JointState α} {index : Nat} :
    s.checkIndex index = .ok () ↔ index < s.size := by
  rw [checkIndex, ← Nat.not_le]
  split
  case isTrue h => simp [h]
  case isFalse h => simp [h]

section Settles
variable {s : JointState α}

theorem setNames_settles (names : List String) :
    (setNames names).Settles s fun t => names.length = s.size ∧ t = { s with names } :=
  .get_bind <| .ite (fun _ => .throw_bind _ _) fun hsize =>
    .set ⟨Decidable.not_not.mp hsize, rfl⟩

theorem setValueAt_settles (field : JointField) (index : Nat) (x : α) :
    (setValueAt field index x).Settles s (s.RewrittenAt field x) :=
  .get_bind <| .require_bind fun _ hcheck => .set ⟨index, checkIndex_eq_ok_iff.mp hcheck, rfl⟩

theorem setValue_settles (field : JointField) (joint : String) (x : α) :
    (setValue field joint x).Settles s (s.RewrittenAt field x) :=
  .get_bind <| .liftM_bind fun index _ => setValueAt_settles field index x

theorem write_settles (selection : JointSelection) (data : List α) :
    (write selection data).Settles s (s.Rewritten selection) :=
  .get_bind <| .ite (fun _ => .throw_bind _ _) fun hsize =>
    .set ⟨data, Decidable.not_not.mp hsize, rfl⟩

variable [Scalar α]

theorem clampEach_settles (bounds : List α) (selection : JointSelection) (ratios : List α) :
    (clampEach bounds selection ratios).Settles s (s.Rewritten selection) :=
  .get_bind <| .require_bind fun _ _ =>
    .ite (fun _ => .throw_bind _ _) fun _ =>
      .ite (fun _ => .throw_bind _ _) fun _ => write_settles selection _

theorem clamp_settles (bound : α) (selection : JointSelection) (ratio : α) :
    (clamp bound selection ratio).Settles s (s.Rewritten selection) :=
  .get_bind <| clampEach_settles _ selection _

theorem multiply_settles (gain : DenseMatrix α) (selection : JointSelection) :
    (multiply gain selection).Settles s (s.Rewritten selection) :=
  .get_bind <| .require_bind fun _ _ =>
    .ite (fun _ => .throw_bind _ _) fun _ =>
      .ite (fun _ => .throw_bind _ _) fun _ => write_settles selection _

theorem multiplyEach_settles (gain : List α) (selection : JointSelection) :
    (multiplyEach gain selection).Settles s (s.Rewritten selection) :=
  .get_bind <| .require_bind fun _ _ =>
    .ite (fun _ => .throw_bind _ _) fun _ => write_settles selection _

end Settles

inductive Change (α : Type) where
  | setName (name : String)
  | setNames (names : List String)
  | setEmpty (empty : Bool)
  | touch (now : Instant)
  | setZero
  | clear
  | setValueAt (field : JointField) (index : Nat) (x : α)
  | setValue (field : JointField) (joint : String) (x : α)
  | write (selection : JointSelection) (data : List α)
  | clamp (bound : α) (selection : JointSelection) (ratio : α)
  | clampEach (bounds : List α) (selection : JointSelection) (ratios : List α)
  | multiply (gain : DenseMatrix α) (selection : JointSelection)
  | multiplyEach (gain : List α) (selection : JointSelection)

namespace Change
variable [Scalar α]

def edit : Change α → Edit α (JointState α) Unit
  | setName name => modify (·.setName name)
  | setNames names => JointState.setNames names
  | setEmpty empty => modify (·.setEmpty empty)
  | touch now => modify (·.touch now)
  | setZero => modify JointState.setZero
  | clear => modify JointState.clear
  | setValueAt field index x => JointState.setValueAt field index x
  | setValue field joint x => JointState.setValue field joint x
  | write selection data => JointState.write selection data
  | clamp bound selection ratio => JointState.clamp bound selection ratio
  | clampEach bounds selection ratios => JointState.clampEach bounds selection ratios
  | multiply gain selection => JointState.multiply gain selection
  | multiplyEach gain selection => JointState.multiplyEach gain selection

/-- What a change of `s` that is not refused may leave behind. -/
def Leaves (s : JointState α) : Change α → JointState α → Prop
  | setName name, t => t = s.setName name
  | setNames names, t => names.length = s.size ∧ t = { s with names }
  | setEmpty empty, t => t = s.setEmpty empty
  | touch now, t => t = s.touch now
  | setZero, t => t = s.setZero
  | clear, t => t = s.clear
  | setValueAt field _ x, t | setValue field _ x, t => s.RewrittenAt field x t
  | write selection _, t | clamp _ selection _, t | clampEach _ selection _, t
  | multiply _ selection, t | multiplyEach _ selection, t => s.Rewritten selection t

theorem settles (s : JointState α) (change : Change α) :
    change.edit.Settles s (change.Leaves s) := by
  cases change with
  | setName name => exact .modify rfl
  | setNames names => exact setNames_settles names
  | setEmpty empty => exact .modify rfl
  | touch now => exact .modify rfl
  | setZero => exact .modify rfl
  | clear => exact .modify rfl
  | setValueAt field index x => exact setValueAt_settles field index x
  | setValue field joint x => exact setValue_settles field joint x
  | write selection data => exact write_settles selection data
  | clamp bound selection ratio => exact clamp_settles bound selection ratio
  | clampEach bounds selection ratios => exact clampEach_settles bounds selection ratios
  | multiply gain selection => exact multiply_settles gain selection
  | multiplyEach gain selection => exact multiplyEach_settles gain selection

end Change

inductive Operation (α : Type) where
  | add (other : JointState α)
  | sub (other : JointState α)
  | scale (k : α)
  | divide (k : α)
  | scaleSelection (k : α) (selection : JointSelection)
  | scaleByMatrix (gain : DenseMatrix α)
  | scaleEach (gain : List α)

namespace Operation

def operands : Operation α → List (JointState α)
  | add other | sub other => [other]
  | _ => []

def apply [Scalar α] (s : JointState α) : Operation α → Except (StateError α) (JointState α)
  | add other => s.add other
  | sub other => s.sub other
  | scale k => s.scale k
  | divide k => s.divide k
  | scaleSelection k selection => s.scaleSelection k selection
  | scaleByMatrix gain => s.scaleByMatrix gain
  | scaleEach gain => s.scaleEach gain

end Operation

inductive Query (α : Type) where
  | data
  | valueAt (field : JointField) (index : Nat)
  | value (field : JointField) (joint : String)
  | dist (other : JointState α) (selection : JointSelection)

namespace Query

def operands : Query α → List (JointState α)
  | dist other _ => [other]
  | _ => []

def answer [Scalar α] (s : JointState α) : Query α → Except (StateError α) (List α)
  | data => s.data
  | valueAt field index => return [← s.valueAt field index]
  | value field joint => return [← s.value field joint]
  | dist other selection => return [← s.dist other selection]

end Query
end JointState

namespace JointProjection
variable {α : Type} {field : JointField}

section Lift
variable {edit : Edit α (JointState α) Unit} {p q : JointProjection α field}

theorem lift_eq_ok_iff :
    (lift edit : Edit α (JointProjection α field) Unit).applyTo p = (.ok (), q) ↔
      edit.applyTo p.general = (.ok (), q.general) := by
  obtain ⟨s⟩ := p
  obtain ⟨t⟩ := q
  rw [lift, Edit.applyTo_within, Prod.mk.injEq, Prod.ext_iff, JointProjection.mk.injEq]

theorem lift_eq {outcome : Except (StateError α) Unit} {s : JointState α}
    (h : edit.applyTo p.general = (outcome, s)) :
    (lift edit : Edit α (JointProjection α field) Unit).applyTo p = (outcome, ⟨s⟩) := by
  rw [lift, Edit.applyTo_within, h]

theorem lift_settles {R : JointState α → Prop} (h : edit.Settles p.general R) :
    (lift edit : Edit α (JointProjection α field) Unit).Settles p fun q => R q.general :=
  (h.within rfl).mono fun _ ⟨_, hR, hq⟩ => hq ▸ hR

end Lift

inductive Change (α : Type) where
  | setName (name : String)
  | setNames (names : List String)
  | setEmpty (empty : Bool)
  | touch (now : Instant)
  | setZero
  | clear
  | setData (data : List α)
  | setValueAt (index : Nat) (x : α)
  | setValue (joint : String) (x : α)
  | clamp (bound ratio : α)
  | clampEach (bounds ratios : List α)
  | clampWith (limits : JointLimits α)

namespace Change
variable [Scalar α]

def edit : Change α → Edit α (JointProjection α field) Unit
  | setName name => modify (·.setName name)
  | setNames names => JointProjection.setNames names
  | setEmpty empty => modify (·.setEmpty empty)
  | touch now => modify (·.touch now)
  | setZero => modify JointProjection.setZero
  | clear => modify JointProjection.clear
  | setData data => JointProjection.setData data
  | setValueAt index x => JointProjection.setValueAt index x
  | setValue joint x => JointProjection.setValue joint x
  | clamp bound ratio => JointProjection.clamp bound ratio
  | clampEach bounds ratios => JointProjection.clampEach bounds ratios
  | clampWith limits => JointProjection.clampWith limits

/-- The change of the general state, for a projection to `field`. -/
def general (field : JointField) : Change α → JointState.Change α
  | setName name => .setName name
  | setNames names => .setNames names
  | setEmpty empty => .setEmpty empty
  | touch now => .touch now
  | setZero => .setZero
  | clear => .clear
  | setData data => .write field.selection data
  | setValueAt index x => .setValueAt field index x
  | setValue joint x => .setValue field joint x
  | clamp bound ratio => .clamp bound field.selection ratio
  | clampEach bounds ratios => .clampEach bounds field.selection ratios
  | clampWith limits => .clampEach limits.maxima field.selection limits.ratios

theorem settles (p : JointProjection α field) (change : Change α) :
    change.edit.Settles p fun q => (change.general field).Leaves p.general q.general := by
  cases change with
  | setName name => exact .modify rfl
  | setNames names => exact lift_settles (JointState.setNames_settles names)
  | setEmpty empty => exact .modify rfl
  | touch now => exact .modify rfl
  | setZero => exact .modify rfl
  | clear => exact .modify rfl
  | setData data => exact lift_settles (JointState.write_settles field.selection data)
  | setValueAt index x => exact lift_settles (JointState.setValueAt_settles field index x)
  | setValue joint x => exact lift_settles (JointState.setValue_settles field joint x)
  | clamp bound ratio => exact lift_settles (JointState.clamp_settles bound field.selection ratio)
  | clampEach bounds ratios =>
    exact lift_settles (JointState.clampEach_settles bounds field.selection ratios)
  | clampWith limits =>
    exact .require_bind fun _ _ =>
      lift_settles (JointState.clampEach_settles limits.maxima field.selection limits.ratios)

end Change

inductive Operation (α : Type) (field : JointField) where
  | add (other : JointProjection α field)
  | sub (other : JointProjection α field)
  | scale (k : α)
  | divide (k : α)
  | scaleByMatrix (gain : DenseMatrix α)
  | scaleEach (gain : List α)
  | clamped (bound ratio : α)

namespace Operation

def operands : Operation α field → List (JointProjection α field)
  | add other | sub other => [other]
  | _ => []

def apply [Scalar α] (p : JointProjection α field) :
    Operation α field → Except (StateError α) (JointProjection α field)
  | add other => p.add other
  | sub other => p.sub other
  | scale k => p.scale k
  | divide k => p.divide k
  | scaleByMatrix gain => p.scaleByMatrix gain
  | scaleEach gain => p.scaleEach gain
  | clamped bound ratio => (JointProjection.clamp bound ratio).onCopy p

end Operation
end JointProjection
end Kinematics
