import Kinematics.Proofs.Scalar
import Kinematics.Proofs.Cartesian.Change
import Kinematics.Proofs.Parameter.Batch

/-!
# Refused changes

A change that is refused has changed nothing. The batches that write several parameters into a map
are the exception: they keep what they have written before the parameter that is refused.
-/

namespace Kinematics
variable {α : Type}

theorem Shape.setCenter_settles (pose : CartesianPose α) (s : Shape α) :
    (Shape.setCenter pose).Settles s fun t => t = { s with center := pose, empty := false } :=
  .require_bind fun _ _ => .modify rfl

theorem Shape.setCenter_atomic (pose : CartesianPose α) : (Shape.setCenter pose).Atomic :=
  .of_settles (setCenter_settles pose)

theorem Shape.Change.atomic (change : Shape.Change α) : change.edit.Atomic := by
  cases change with
  | setName name => exact .modify _
  | setCenter pose => exact setCenter_atomic pose
  | setCenterPosition position => exact .modify _
  | setCenterOrientation q => exact .modify _

theorem Ellipsoid.setData_atomic (data : List α) :
    (Ellipsoid.setData data : Edit α (Ellipsoid α) Unit).Atomic := by
  unfold Ellipsoid.setData
  split
  · exact .modify _
  · intro e _ _
    rfl

theorem Ellipsoid.Change.atomic (change : Ellipsoid.Change α) : change.edit.Atomic := by
  cases change with
  | setCenter pose => exact (Shape.setCenter_atomic pose).within fun _ => rfl
  | setCenterPosition position => exact .modify _
  | setCenterOrientation q => exact .modify _
  | setAxes x y => exact .modify _
  | setAngle angle => exact .modify _
  | setData data => exact setData_atomic data

theorem Parameter.Change.atomic (change : Parameter.Change α) : change.edit.Atomic := by
  cases change with
  | setName name => exact .modify _
  | set v => exact .of_settles fun _ => Parameter.set_settles v
  | clear => exact .modify _

namespace ParameterMap.Change

/-- The change writes several parameters, one after the other. -/
def IsBatch : Change α → Prop
  | setParameters _ | setMap _ => True
  | _ => False

theorem atomic {change : Change α} (hsingle : ¬change.IsBatch) : change.edit.Atomic := by
  cases change with
  | setParameter p => exact .of_settles fun _ => setParameter_settles p
  | setParameters ps => exact absurd trivial hsingle
  | setMap other => exact absurd trivial hsingle
  | setValue name v now => exact .of_settles fun _ => setValue_settles name v now
  | remove name => exact .of_settles fun _ => remove_settles name

end ParameterMap.Change

namespace ParameterMap

/-- A batch can be refused after it has written. -/
theorem exists_setParameters_halfway (α : Type) :
    ∃ (m : ParameterMap α) (ps : List (Parameter α)) (e : StateError α),
      m.Built ∧ (∀ p ∈ ps, p.Built) ∧
      ((setParameters ps).applyTo m).1 = .error e ∧ ((setParameters ps).applyTo m).2 ≠ m := by
  let lid : Parameter α := .ofValue "lid" ⟨.bool, true⟩ ⟨0⟩
  let label : Parameter α := .ofValue "lid" ⟨.string, "open"⟩ ⟨0⟩
  refine ⟨.empty, [lid, label], _, .empty, ?_, rfl, ?_⟩
  · intro p hp
    obtain rfl | hp := List.mem_cons.mp hp
    · exact .ofValue ..
    · rw [List.mem_singleton.mp hp]
      exact .ofValue ..
  · intro heq
    cases heq

/-- So can a merge, at the first name in conflict. -/
theorem exists_setMap_halfway (α : Type) :
    ∃ (m other : ParameterMap α) (e : StateError α), m.Built ∧ other.Built ∧
      ((setMap other).applyTo m).1 = .error e ∧ ((setMap other).applyTo m).2 ≠ m := by
  let lid : Parameter α := .ofValue "lid" ⟨.bool, true⟩ ⟨0⟩
  let label : Parameter α := .ofValue "lid" ⟨.string, "open"⟩ ⟨0⟩
  let arm : Parameter α := .ofValue "arm" ⟨.bool, true⟩ ⟨0⟩
  let m : ParameterMap α := empty.insert "lid" lid
  let other : ParameterMap α := (empty.insert "lid" label).insert "arm" arm
  have hm : m.Built := .setParameter .empty (.ofValue ..)
  have hlabel : (empty.insert "lid" label).Built := .setParameter .empty (.ofValue ..)
  have hother : other.Built := .setParameter hlabel (.ofValue "arm" ⟨.bool, true⟩ ⟨0⟩)
  have hconflict : m.Conflicts other "lid" :=
    ⟨lid, label, rfl, rfl, by simp [lid, label, Parameter.ofValue]⟩
  have hleast (name : String) (h : m.Conflicts other name) : ¬name < "lid" := by
    obtain ⟨p, q, hp, -, -⟩ := h
    by_cases hname : name = "lid"
    · rw [hname]
      exact String.lt_irrefl _
    · rw [find?_insert_of_ne _ hname] at hp
      cases hp
  obtain ⟨e, t, -, ht, -, hfind⟩ :=
    applyTo_setMap_of_conflict hm.wellFormed.ordered hother.wellFormed hconflict hleast
  refine ⟨m, other, e, hm, hother, congrArg Prod.fst ht, ?_⟩
  rw [ht]
  rintro rfl
  have harm := hfind "arm"
  rw [if_pos (by decide)] at harm
  cases harm

end ParameterMap

/-- Whatever the value, the arguments and the scalars are, a change that is refused leaves all of
the value as it was, a write also where it stores its numbers one by one. Only the two batches of a
map can be refused halfway. -/
theorem refused_changes_leave_no_trace {α : Type} [Scalar α] :
    (∀ change : CartesianState.Change α, change.edit.Atomic) ∧
    (∀ (selection : CartesianSelection) (data : List α),
      (CartesianState.writeStepwise selection data).Atomic) ∧
    (∀ (kind : CartesianKind) (change : CartesianProjection.Change α kind), change.edit.Atomic) ∧
    (∀ change : JointState.Change α, change.edit.Atomic) ∧
    (∀ (field : JointField) (change : JointProjection.Change α),
      (change.edit : Edit α (JointProjection α field) Unit).Atomic) ∧
    (∀ change : Shape.Change α, change.edit.Atomic) ∧
    (∀ change : Ellipsoid.Change α, change.edit.Atomic) ∧
    (∀ change : Parameter.Change α, change.edit.Atomic) ∧
    (∀ change : ParameterMap.Change α, ¬change.IsBatch → change.edit.Atomic) ∧
    (∃ (m : ParameterMap α) (ps : List (Parameter α)) (e : StateError α),
      m.Built ∧ (∀ p ∈ ps, p.Built) ∧ ((ParameterMap.setParameters ps).applyTo m).1 = .error e ∧
      ((ParameterMap.setParameters ps).applyTo m).2 ≠ m) ∧
    ∃ (m other : ParameterMap α) (e : StateError α), m.Built ∧ other.Built ∧
      ((ParameterMap.setMap other).applyTo m).1 = .error e ∧
      ((ParameterMap.setMap other).applyTo m).2 ≠ m := by
  refine ⟨fun change => .of_settles change.settles, fun selection data => ?_,
    fun kind change => .of_settles change.settles, fun change => .of_settles change.settles,
    fun field change => .of_settles change.settles, Shape.Change.atomic, Ellipsoid.Change.atomic,
    Parameter.Change.atomic, fun change => ParameterMap.Change.atomic,
    ParameterMap.exists_setParameters_halfway α, ParameterMap.exists_setMap_halfway α⟩
  rw [CartesianState.writeStepwise_eq_write]
  exact .of_settles fun _ => CartesianState.write_settles selection data

/-- The quaternion of a pose is zero, which is found out after the position was read; a flag is
refused in place of a gain. -/
theorem refused_changes_leave_no_trace_pose :
    let tool : CartesianState ℝ := .identity "tool" "base" ⟨0⟩
    let data : List ℝ := [1, 2, 3, 0, 0, 0, 0]
    let change : CartesianState.Change ℝ := .write .pose data
    let gain : Parameter ℝ := .ofValue "gain" ⟨.double, (2 : ℝ)⟩ ⟨1⟩
    let m : ParameterMap ℝ := ⟨[("gain", gain)]⟩
    let toFlag : ParameterMap.Change ℝ := .setValue "gain" ⟨.bool, true⟩ ⟨2⟩
    (∃ e, (change.edit.applyTo tool).1 = .error e) ∧ (change.edit.applyTo tool).2 = tool ∧
      ((CartesianState.writeStepwise .pose data).applyTo tool).2 = tool ∧
      ¬toFlag.IsBatch ∧ (∃ e, (toFlag.edit.applyTo m).1 = .error e) ∧
      (toFlag.edit.applyTo m).2 = m := by
  intro tool data change gain m toFlag
  have hunit : ∃ e, (Quaternion.unit ⟨0, 0, 0, 0⟩ : Except (StateError ℝ) _) = .error e := by
    have hsmall : ¬Scalar.squaredNormEpsilon < (⟨0, 0, 0, 0⟩ : Quaternion ℝ).normSq := by
      simp only [Scalar.squaredNormEpsilon, Quaternion.normSq, Quaternion.dot]
      norm_num
    rw [Quaternion.unit, Quaternion.normalize?, if_neg hsmall]
    exact ⟨_, rfl⟩
  obtain ⟨e, he⟩ := hunit
  have hvalues : CartesianValues.write CartesianSelection.pose.fields data tool.values =
      .error e := by
    change CartesianValues.write [.vector .position, .orientation] [1, 2, 3, 0, 0, 0, 0] _ = _
    rw [CartesianValues.write, CartesianValues.write, he]
    rfl
  have hwrite : (change.edit.applyTo tool).1 = .error e := by
    change ((CartesianState.write .pose data).applyTo tool).1 = _
    have hsize : data.length = CartesianSelection.pose.size := rfl
    unfold CartesianState.write
    rw [if_neg (not_not_intro hsize)]
    simp only [Edit.applyTo_bind, Edit.applyTo_get, Edit.applyTo_liftM, hvalues]
  have hstepwise : ((CartesianState.writeStepwise .pose data).applyTo tool).1 = .error e := by
    rw [CartesianState.writeStepwise_eq_write]
    exact hwrite
  have hgain : m.find? "gain" = some gain := rfl
  have hkinds : ParameterType.bool ≠ gain.declared := by
    simp [gain, Parameter.ofValue]
  have htoFlag : (toFlag.edit.applyTo m).1 =
      .error (.parameterCannotHold "gain" .double .bool) :=
    congrArg Prod.fst (ParameterMap.applyTo_setValue_of_ne ⟨2⟩ hgain hkinds)
  obtain ⟨hchanges, hwrites, -, -, -, -, -, -, hmaps, -⟩ :=
    refused_changes_leave_no_trace (α := ℝ)
  exact ⟨⟨e, hwrite⟩, hchanges change tool e hwrite, hwrites .pose data tool e hstepwise, id,
    ⟨_, htoFlag⟩, hmaps toFlag id m _ htoFlag⟩

end Kinematics
