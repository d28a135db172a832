import Kinematics.Proofs.Joint.Strict

/-!
# Input that fits

What is given to an operation on a joint state fits when the state has the joints that are named or
numbered, and as many numbers as are given. What does not fit is refused.
-/

namespace Kinematics

namespace JointState
variable {α : Type} {s t : JointState α}

namespace Change

def Fits (s : JointState α) : Change α → Prop
  | setNames names => names.length = s.size
  | setValueAt _ index _ => index < s.size
  | setValue _ joint _ => joint ∈ s.names
  | write selection data => data.length = selection.size s.size
  | clampEach bounds selection ratios =>
    bounds.length = selection.size s.size ∧ ratios.length = selection.size s.size
  | multiply gain selection =>
    gain.rows = selection.size s.size ∧ gain.cols = selection.size s.size
  | multiplyEach gain selection => gain.length = selection.size s.size
  | _ => True

end Change

namespace Operation

def Fits (s : JointState α) : Operation α → Prop
  | add other | sub other => s.isCompatible other
  | scaleByMatrix gain => (Change.multiply gain .all).Fits s
  | scaleEach gain => (Change.multiplyEach gain .all).Fits s
  | _ => True

end Operation

namespace Query

def Fits (s : JointState α) : Query α → Prop
  | data => True
  | valueAt _ index => index < s.size
  | value _ joint => joint ∈ s.names
  | dist other _ => s.isCompatible other

end Query

theorem isCompatible_of_assertCompatible (h : s.assertCompatible t = .ok ()) :
    s.isCompatible t := by
  unfold assertCompatible at h
  split at h
  case isTrue hcompatible => exact hcompatible
  case isFalse => cases h

variable [Scalar α]

theorem Change.settles_fits (s : JointState α) (change : Change α) :
    change.edit.Settles s fun _ => change.Fits s := by
  cases change with
  | setName | setEmpty | touch | setZero | clear => exact .modify trivial
  | setNames names => exact (setNames_settles names).mono fun _ ht => ht.1
  | setValueAt field index x =>
    exact .get_bind <| .require_bind fun _ hcheck => .set (checkIndex_eq_ok_iff.mp hcheck)
  | setValue field joint x =>
    refine .get_bind <| .liftM_bind fun index hindex => ?_
    exact (setValueAt_settles field index x).mono fun _ _ =>
      exists_jointIndex_iff.mp ⟨index, hindex⟩
  | write selection data =>
    exact .get_bind <| .ite (fun _ => .throw_bind _ _) fun hdata =>
      .set (Classical.not_not.mp hdata)
  | clamp bound selection ratio =>
    exact (clamp_settles bound selection ratio).mono fun _ _ => trivial
  | clampEach bounds selection ratios =>
    refine .get_bind <| .require_bind fun _ _ => ?_
    refine .ite (fun _ => .throw_bind _ _) fun hbounds => ?_
    refine .ite (fun _ => .throw_bind _ _) fun hratios => ?_
    exact (write_settles selection _).mono fun _ _ =>
      ⟨Classical.not_not.mp hbounds, Classical.not_not.mp hratios⟩
  | multiply gain selection =>
    refine .get_bind <| .require_bind fun _ _ => ?_
    refine .ite (fun _ => .throw_bind _ _) fun hrows => ?_
    refine .ite (fun _ => .throw_bind _ _) fun hcols => ?_
    exact (write_settles selection _).mono fun _ _ =>
      ⟨Classical.not_not.mp hrows, Classical.not_not.mp hcols⟩
  | multiplyEach gain selection =>
    refine .get_bind <| .require_bind fun _ _ => ?_
    refine .ite (fun _ => .throw_bind _ _) fun hgain => (write_settles selection _).mono ?_
    exact fun _ _ => Classical.not_not.mp hgain

theorem isCompatible_of_combine {sign : α} {r : JointState α} (h : combine sign s t = .ok r) :
    s.isCompatible t := by
  obtain ⟨-, -, h⟩ := exists_of_bind_eq_ok h
  obtain ⟨-, -, h⟩ := exists_of_bind_eq_ok h
  obtain ⟨_, hcompatible, -⟩ := exists_of_bind_eq_ok h
  exact isCompatible_of_assertCompatible hcompatible

theorem Operation.fits_of_apply {op : Operation α} (h : op.apply s = .ok t) : op.Fits s := by
  cases op with
  | add other | sub other => exact isCompatible_of_combine h
  | scale | divide | scaleSelection => trivial
  | scaleByMatrix gain => exact ((Change.multiply gain .all).settles_fits s).onCopy h
  | scaleEach gain => exact ((Change.multiplyEach gain .all).settles_fits s).onCopy h

theorem Query.fits_of_answer {query : Query α} {xs : List α} (hs : s.Sized)
    (h : query.answer s = .ok xs) : query.Fits s := by
  cases query with
  | data => trivial
  | valueAt field index =>
    obtain ⟨x, hx, -⟩ := exists_of_bind_eq_ok h
    exact hs.exists_valueAt_iff.mp ⟨x, hx⟩
  | value field joint =>
    obtain ⟨x, hx, -⟩ := exists_of_bind_eq_ok h
    exact hs.exists_value_iff.mp ⟨x, hx⟩
  | dist other selection =>
    obtain ⟨x, hx, -⟩ := exists_of_bind_eq_ok h
    obtain ⟨-, -, hx⟩ := exists_of_bind_eq_ok hx
    obtain ⟨-, -, hx⟩ := exists_of_bind_eq_ok hx
    obtain ⟨_, hcompatible, -⟩ := exists_of_bind_eq_ok hx
    exact isCompatible_of_assertCompatible hcompatible

end JointState

namespace JointProjection
variable {α : Type} [Scalar α] {field : JointField} {p q : JointProjection α field}

def Operation.Fits (p : JointProjection α field) : Operation α field → Prop
  | add other | sub other => p.general.isCompatible other.general
  | scaleByMatrix gain => (JointState.Change.multiply gain field.selection).Fits p.general
  | scaleEach gain => (JointState.Change.multiplyEach gain field.selection).Fits p.general
  | _ => True

private theorem lift_settles_fits (p : JointProjection α field) (change : JointState.Change α) :
    (lift change.edit : Edit α (JointProjection α field) Unit).Settles p fun _ =>
      change.Fits p.general :=
  lift_settles (R := fun _ => change.Fits p.general) (change.settles_fits p.general)

theorem Change.settles_fits (p : JointProjection α field) (change : Change α) :
    change.edit.Settles p fun _ => (change.general field).Fits p.general := by
  cases change with
  | setName | setEmpty | touch | setZero | clear | clamp =>
    exact (Change.settles p _).mono fun _ _ => trivial
  | setNames names => exact lift_settles_fits p (.setNames names)
  | setData data => exact lift_settles_fits p (.write field.selection data)
  | setValueAt index x => exact lift_settles_fits p (.setValueAt field index x)
  | setValue joint x => exact lift_settles_fits p (.setValue field joint x)
  | clampEach bounds ratios => exact lift_settles_fits p (.clampEach bounds field.selection ratios)
  | clampWith limits =>
    exact .require_bind fun _ _ =>
      lift_settles_fits p (.clampEach limits.maxima field.selection limits.ratios)

theorem Operation.fits_of_apply {op : Operation α field} (h : op.apply p = .ok q) : op.Fits p := by
  cases op with
  | add other | sub other =>
    obtain ⟨_, hsum, -⟩ := exists_of_bind_eq_ok h
    exact JointState.isCompatible_of_combine hsum
  | scale | divide | clamped => trivial
  | scaleByMatrix gain =>
    exact (lift_settles_fits p (.multiply gain field.selection)).onCopy h
  | scaleEach gain =>
    exact (lift_settles_fits p (.multiplyEach gain field.selection)).onCopy h

end JointProjection
end Kinematics
