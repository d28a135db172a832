import Kinematics.Proofs.Joint.Confined
import Kinematics.Proofs.SameOutcome

/-!
# Arithmetic on joint projections

The numbers of a field are computed from those of the same field, and how many numbers the other
fields hold does not depend on their numbers. Two joint states of one type may therefore be
projected before they are added or after it; only the refusal of unlike joints names their types.
-/

namespace Kinematics

/-- The same refusal, of two joint states of the given type. -/
def StateError.retag {α : Type} (type : StateType) : StateError α → StateError α
  | differentJoints _ name joints _ otherName otherJoints =>
      differentJoints type name joints type otherName otherJoints
  | e => e

namespace JointValues
variable {α : Type} {field : JointField} {u v u' v' : JointValues α}

/-- Equal in the field, and of equal lengths in all fields. -/
structure Agree (field : JointField) (u v : JointValues α) : Prop where
  get_eq : u.get field = v.get field
  length_eq (other : JointField) : (u.get other).length = (v.get other).length

namespace Agree

theorem mapFields (h : u.Agree field v) {f : JointField → List α → List α}
    (hlength : ∀ other xs, (f other xs).length = xs.length) :
    (u.mapFields f).Agree field (v.mapFields f) where
  get_eq := by
    rw [JointValues.mapFields, JointValues.mapFields, get_build, get_build, h.get_eq]
  length_eq other := by
    rw [JointValues.mapFields, JointValues.mapFields, get_build, get_build, hlength, hlength,
      h.length_eq other]

theorem zipWith (h : u.Agree field v) (h' : u'.Agree field v') (f : α → α → α) :
    (u.zipWith f u').Agree field (v.zipWith f v') where
  get_eq := by
    rw [JointValues.zipWith, JointValues.zipWith, get_build, get_build, h.get_eq, h'.get_eq]
  length_eq other := by
    rw [JointValues.zipWith, JointValues.zipWith, get_build, get_build, List.length_zipWith,
      List.length_zipWith, h.length_eq other, h'.length_eq other]

variable [Scalar α]

theorem scale (h : u.Agree field v) (k : α) (fields : List JointField) :
    (u.scale k fields).Agree field (v.scale k fields) := by
  apply h.mapFields
  intro other xs
  split
  case isTrue => exact List.length_map _
  case isFalse => rfl

theorem restrict_eq (h : u.Agree field v) : u.restrict [field] = v.restrict [field] := by
  apply ext_get
  intro other
  rw [get_restrict, get_restrict]
  split
  case isTrue hin =>
    rw [List.mem_singleton.mp hin]
    exact h.get_eq
  case isFalse => rw [List.map_const', List.map_const', h.length_eq other]

end Agree

theorem agree_restrict [Scalar α] (v : JointValues α) (field : JointField) :
    (v.restrict [field]).Agree field v where
  get_eq := by
    rw [get_restrict, if_pos (List.mem_singleton.mpr rfl)]
  length_eq other := by
    rw [get_restrict]
    split
    case isTrue => rfl
    case isFalse => exact List.length_map _

end JointValues

namespace JointState
variable {α : Type} [Scalar α] (field : JointField) (a b s : JointState α)

/-- Equal once they are projected. -/
def SameProjection (s t : JointState α) : Prop := s.project field = t.project field

variable {field} in
theorem project_withValues {u v : JointValues α} (h : u.Agree field v) :
    ({ (s.project field).general with values := u } : JointState α).project field =
      ({ s with values := v } : JointState α).project field := by
  rw [project, project, h.restrict_eq]
  rfl

section Refusals

omit [Scalar α] in
private theorem mapError_bind {β γ : Type} {check : Except (StateError α) β}
    {next : β → Except (StateError α) γ} (f : StateError α → StateError α) :
    (check >>= next).mapError f = check.mapError f >>= fun x => (next x).mapError f := by
  cases check <;> rfl

omit [Scalar α] in
theorem assertFilled_retag (s : State) (type : StateType) :
    (s.assertFilled : Except (StateError α) Unit).mapError (·.retag type) = s.assertFilled := by
  unfold State.assertFilled
  split <;> rfl

variable {a b} in
theorem assertCompatible_project (h : a.type = b.type) :
    (a.project field).general.assertCompatible (b.project field).general =
      (a.assertCompatible b).mapError (·.retag field.type) := by
  have hcompatible : (a.project field).general.isCompatible (b.project field).general =
      a.isCompatible b := by
    have htypes : (a.project field).general.toState.isCompatible (b.project field).general.toState =
        a.toState.isCompatible b.toState := by
      simp [State.isCompatible, project, h]
    rw [isCompatible, isCompatible, htypes]
    rfl
  rw [assertCompatible, assertCompatible, hcompatible]
  split <;> rfl

end Refusals

variable {a b} in
theorem combine_project (h : a.type = b.type) (sign : α) :
    SameOutcome (SameProjection field)
      (combine sign (a.project field).general (b.project field).general)
      ((combine sign a b).mapError (·.retag field.type)) := by
  have hfields := (a.values.agree_restrict field).zipWith (b.values.agree_restrict field)
    fun x y => x + sign * y
  simp only [combine, mapError_bind, assertFilled_retag]
  refine .check_bind rfl fun _ => .check_bind rfl fun _ => ?_
  exact .check_bind (assertCompatible_project field h) fun _ =>
    .yields (a.project_withValues hfields)

theorem scale_project (k : α) :
    SameOutcome (SameProjection field) ((s.project field).general.scale k) (s.scale k) := by
  have hfields := (s.values.agree_restrict field).scale k JointSelection.all.fields
  exact .check_bind rfl fun _ => .yields (s.project_withValues hfields)

theorem divide_project (k : α) :
    SameOutcome (SameProjection field) ((s.project field).general.divide k) (s.divide k) :=
  .ite (.refused _) (s.scale_project field (1 / k))

end JointState

namespace JointProjection
variable {α : Type} [Scalar α] (field : JointField) {a b : JointState α} (s : JointState α)

theorem project_add (h : a.type = b.type) :
    (a.project field).add (b.project field) =
      ((a.add b).mapError (·.retag field.type)).map (·.project field) :=
  (JointState.combine_project field h 1).return_eq_map id

theorem project_sub (h : a.type = b.type) :
    (a.project field).sub (b.project field) =
      ((a.sub b).mapError (·.retag field.type)).map (·.project field) :=
  (JointState.combine_project field h (-1)).return_eq_map id

theorem project_scale (k : α) : (s.project field).scale k = (s.scale k).map (·.project field) :=
  (s.scale_project field k).return_eq_map id

theorem project_divide (k : α) :
    (s.project field).divide k = (s.divide k).map (·.project field) :=
  (s.divide_project field k).return_eq_map id

end JointProjection
end Kinematics
