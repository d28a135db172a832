import Kinematics.Proofs.Cartesian.Confined
import Kinematics.Proofs.Cartesian.Expression
import Kinematics.Proofs.Cartesian.Groupoid
import Kinematics.Proofs.Cartesian.Sum
import Kinematics.Proofs.SameOutcome

/-!
# Arithmetic on Cartesian projections

What is computed in a field of the kind is computed from the fields of the kind alone, and what is
checked of a state is none of its fields. So it makes no difference whether states are projected
before they are computed with or after it.
-/

namespace Kinematics

namespace CartesianValues
open CartesianState (inverseValues multipleValues negatedValues orientation_multiple
  orientation_negated orientation_sum sumValues vector_multiple vector_negated vector_sum)
variable {α : Type} {fields : List CartesianField}

/-- Equal in the given fields. -/
structure Agree (fields : List CartesianField) (u v : CartesianValues α) : Prop where
  orientation : .orientation ∈ fields → u.orientation = v.orientation
  vector {field : VectorField} : .vector field ∈ fields → u.vector field = v.vector field

namespace Agree
variable [Scalar α] {u v u' v' : CartesianValues α}

theorem restrict_eq (h : u.Agree fields v) : u.restrict fields = v.restrict fields := by
  apply ext_vector
  · rw [orientation_restrict, orientation_restrict]
    split
    case isTrue hin => exact h.orientation hin
    case isFalse => rfl
  · intro field
    rw [vector_restrict, vector_restrict]
    split
    case isTrue hin => exact h.vector hin
    case isFalse => rfl

theorem sum (h : u.Agree fields v) (h' : u'.Agree fields v') (subtract : Bool) :
    (sumValues subtract u u').Agree fields (sumValues subtract v v') where
  orientation hin := by
    rw [orientation_sum, orientation_sum, h.orientation hin, h'.orientation hin]
  vector hin := by
    rw [vector_sum, vector_sum, h.vector hin, h'.vector hin]

theorem negate (h : u.Agree fields v) :
    (negatedValues u).Agree fields (negatedValues v) where
  orientation hin := by
    rw [orientation_negated, orientation_negated, h.orientation hin]
  vector hin := by
    rw [vector_negated, vector_negated, h.vector hin]

theorem scale (h : u.Agree fields v) (k : α) :
    (multipleValues k u).Agree fields (multipleValues k v) where
  orientation hin := by
    rw [orientation_multiple, orientation_multiple, h.orientation hin]
  vector hin := by
    rw [vector_multiple, vector_multiple, h.vector hin]

theorem normalize (h : u.Agree fields v) (selected : List CartesianField) :
    (u.normalize selected).Agree fields (v.normalize selected) where
  orientation := h.orientation
  vector hin := by
    rw [CartesianValues.normalize, CartesianValues.normalize, vector_mapVectors,
      vector_mapVectors, h.vector hin]

/-- All vectors of an inverse are turned, so that the orientation must be among the fields. -/
theorem inverse (hin : .orientation ∈ fields) (h : u.Agree fields v) :
    (inverseValues u).Agree fields (inverseValues v) where
  orientation _ := by
    rw [orientation_inverse, orientation_inverse, h.orientation hin]
  vector hfield := by
    rw [vector_inverse, vector_inverse, h.orientation hin, h.vector hfield]

end Agree

theorem agree_restrict [Scalar α] (v : CartesianValues α) (fields : List CartesianField) :
    (v.restrict fields).Agree fields v where
  orientation hin := by
    rw [orientation_restrict, if_pos hin]
  vector hin := by
    rw [vector_restrict, if_pos hin]

end CartesianValues

namespace CartesianState
variable {α : Type} [Scalar α] {kind : CartesianKind}

theorem project_withValues (s : CartesianState α) {u v : CartesianValues α}
    (h : u.Agree kind.selection.fields v) :
    ({ (s.project kind).general with values := u } : CartesianState α).project kind =
      ({ s with values := v } : CartesianState α).project kind := by
  rw [project, project, h.restrict_eq]
  rfl

/-- Equal once they are projected. -/
def SameProjection (kind : CartesianKind) (s t : CartesianState α) : Prop :=
  s.project kind = t.project kind

variable (kind) (a b s : CartesianState α)

theorem combine_project (subtract : Bool) :
    SameOutcome (SameProjection kind)
      (combine subtract (a.project kind).general (b.project kind).general)
      (combine subtract a b) := by
  have hfields := (a.values.agree_restrict kind.selection.fields).sum
    (b.values.agree_restrict kind.selection.fields) subtract
  rw [combine_eq, combine_eq]
  -- the checks read names, frames and emptiness, which projecting keeps
  refine .check_bind rfl fun _ => .check_bind rfl fun _ => .check_bind rfl fun _ => ?_
  exact .yields (a.project_withValues hfields)

theorem negate_project :
    SameOutcome (SameProjection kind) (s.project kind).general.negate s.negate := by
  have hfields := (s.values.agree_restrict kind.selection.fields).negate
  exact .check_bind rfl fun _ => .yields (s.project_withValues hfields)

theorem scale_project (k : α) :
    SameOutcome (SameProjection kind) ((s.project kind).general.scale k) (s.scale k) := by
  have hfields := (s.values.agree_restrict kind.selection.fields).scale k
  exact .check_bind rfl fun _ => .yields (s.project_withValues hfields)

theorem divide_project (k : α) :
    SameOutcome (SameProjection kind) ((s.project kind).general.divide k) (s.divide k) :=
  .ite (.refused _) (s.scale_project kind (1 / k))

theorem normalize_project (selection : CartesianSelection) :
    SameOutcome (SameProjection kind) ((s.project kind).general.normalize selection)
      (s.normalize selection) := by
  have hfields := (s.values.agree_restrict kind.selection.fields).normalize selection.fields
  exact .check_bind rfl fun _ => .yields (s.project_withValues hfields)

theorem inverse_project :
    SameOutcome (SameProjection .pose) (s.project .pose).general.inverse s.inverse := by
  have hfields := (s.values.agree_restrict CartesianKind.pose.selection.fields).inverse
    (by decide)
  -- the two names change places in the state and in its projection
  have hswapped := project_withValues { s with name := s.frame, frame := s.name } hfields
  exact .check_bind rfl fun _ => .yields hswapped

end CartesianState

namespace CartesianProjection
variable {α : Type} [Scalar α] (kind : CartesianKind) (a b s : CartesianState α)

theorem project_add :
    (a.project kind).add (b.project kind) = (a.add b).map (·.project kind) :=
  (CartesianState.combine_project kind a b false).return_eq_map id

theorem project_sub :
    (a.project kind).sub (b.project kind) = (a.sub b).map (·.project kind) :=
  (CartesianState.combine_project kind a b true).return_eq_map id

theorem project_negate : (s.project kind).negate = s.negate.map (·.project kind) :=
  (s.negate_project kind).return_eq_map id

theorem project_scale (k : α) : (s.project kind).scale k = (s.scale k).map (·.project kind) :=
  (s.scale_project kind k).return_eq_map id

theorem project_divide (k : α) : (s.project kind).divide k = (s.divide k).map (·.project kind) :=
  (s.divide_project kind k).return_eq_map id

theorem project_normalize (selection : CartesianSelection) :
    (s.project kind).normalize selection = (s.normalize selection).map (·.project kind) :=
  (s.normalize_project kind selection).return_eq_map id

theorem project_inverse : (s.project .pose).inverse = s.inverse.map (·.project .pose) :=
  s.inverse_project.return_eq_map id

end CartesianProjection

namespace Expression
variable {α : Type} [Scalar α]

/-- The value of the expression in projections of a kind, its states projected first. -/
def evaluateAs (kind : CartesianKind) :
    Expression α → Except (StateError α) (CartesianProjection α kind)
  | state s => .ok (s.project kind)
  | add left right => do (← left.evaluateAs kind).add (← right.evaluateAs kind)
  | sub left right => do (← left.evaluateAs kind).sub (← right.evaluateAs kind)
  | negate e => do (← e.evaluateAs kind).negate
  | scale e k => do (← e.evaluateAs kind).scale k
  | divide e k => do (← e.evaluateAs kind).divide k
  | normalize e selection => do (← e.evaluateAs kind).normalize selection

section Bind
variable {β γ δ : Type} {f : β → γ} {x y : Except (StateError α) β}

omit [Scalar α] in
private theorem map_bind {op : γ → Except (StateError α) γ} {op' : β → Except (StateError α) β}
    (h : ∀ s, op (f s) = (op' s).map f) : (x.map f >>= op) = (x >>= op').map f := by
  cases x with
  | error e => rfl
  | ok s => exact h s

omit [Scalar α] in
private theorem map_bind_bind {op : γ → γ → Except (StateError α) γ}
    {op' : β → β → Except (StateError α) β} (h : ∀ a b, op (f a) (f b) = (op' a b).map f) :
    (x.map f >>= fun p => y.map f >>= op p) = (x >>= fun a => y >>= op' a).map f := by
  cases x with
  | error e => rfl
  | ok a =>
    change (y.map f >>= op (f a)) = (y >>= op' a).map f
    exact map_bind (h a)

end Bind

/-- By induction on the expression: each operation may be taken before or after projecting. -/
theorem evaluateAs_eq (kind : CartesianKind) (e : Expression α) :
    e.evaluateAs kind = e.evaluate.map (·.project kind) := by
  induction e with
  | state s => rfl
  | add left right hleft hright =>
    rw [evaluateAs, hleft, hright]
    exact map_bind_bind (CartesianProjection.project_add kind)
  | sub left right hleft hright =>
    rw [evaluateAs, hleft, hright]
    exact map_bind_bind (CartesianProjection.project_sub kind)
  | negate e h =>
    rw [evaluateAs, h]
    exact map_bind (CartesianProjection.project_negate kind)
  | scale e k h =>
    rw [evaluateAs, h]
    exact map_bind (CartesianProjection.project_scale kind · k)
  | divide e k h =>
    rw [evaluateAs, h]
    exact map_bind (CartesianProjection.project_divide kind · k)
  | normalize e selection h =>
    rw [evaluateAs, h]
    exact map_bind (CartesianProjection.project_normalize kind · selection)

end Expression
end Kinematics
