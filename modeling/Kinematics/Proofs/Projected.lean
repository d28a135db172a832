import Kinematics.Proofs.Scalar
import Kinematics.Proofs.Cartesian.Projected
import Kinematics.Proofs.Joint.Projected

/-!
# Arithmetic before and after projecting

General states and their projections are computed with in two ways that agree.
-/

namespace Kinematics

/-- Arithmetic on projections is the projected arithmetic on general states, whether that yields or
is refused. Poses are inverted alike; joint states must be of one type, and are refused under the
type of the projection. -/
theorem projecting_commutes_with_arithmetic {α : Type} [Scalar α] :
    (∀ (kind : CartesianKind) (a b : CartesianState α) (k : α) (selection : CartesianSelection),
      (a.project kind).add (b.project kind) = (a.add b).map (·.project kind) ∧
      (a.project kind).sub (b.project kind) = (a.sub b).map (·.project kind) ∧
      (a.project kind).negate = a.negate.map (·.project kind) ∧
      (a.project kind).scale k = (a.scale k).map (·.project kind) ∧
      (a.project kind).divide k = (a.divide k).map (·.project kind) ∧
      (a.project kind).normalize selection = (a.normalize selection).map (·.project kind)) ∧
    (∀ a : CartesianState α, (a.project .pose).inverse = a.inverse.map (·.project .pose)) ∧
    ∀ (field : JointField) (a b : JointState α) (k : α), a.type = b.type →
      (a.project field).add (b.project field) =
        ((a.add b).mapError (·.retag field.type)).map (·.project field) ∧
      (a.project field).sub (b.project field) =
        ((a.sub b).mapError (·.retag field.type)).map (·.project field) ∧
      (a.project field).scale k = (a.scale k).map (·.project field) ∧
      (a.project field).divide k = (a.divide k).map (·.project field) := by
  refine ⟨fun kind a b k selection => ?_, CartesianProjection.project_inverse,
    fun field a b k htype => ?_⟩
  · exact ⟨CartesianProjection.project_add kind a b, CartesianProjection.project_sub kind a b,
      CartesianProjection.project_negate kind a, CartesianProjection.project_scale kind a k,
      CartesianProjection.project_divide kind a k,
      CartesianProjection.project_normalize kind a selection⟩
  · exact ⟨JointProjection.project_add field htype, JointProjection.project_sub field htype,
      JointProjection.project_scale field a k, JointProjection.project_divide field a k⟩

/-- The velocity of the first arm is lost on the way to its positions, and it makes no difference
when. Arms with unlike joints are not added either way. -/
theorem projecting_commutes_with_arithmetic_arms :
    let arm (joint : String) (position velocity : ℝ) : JointState ℝ :=
      { (JointState.zero "arm" [joint] ⟨0⟩ : JointState ℝ) with
        values := ⟨[position], [velocity], [0], [0]⟩ }
    let a := arm "elbow" 1 5
    (∃ r, (a.project .positions).add ((arm "elbow" 2 0).project .positions) = .ok r ∧
      r.general.values.positions = [3] ∧ r.general.values.velocities = [0] ∧
      r.general.type = .jointPositions) ∧
    (a.project .positions).add ((arm "wrist" 2 0).project .positions) = .error
      (.differentJoints .jointPositions "arm" ["elbow"] .jointPositions "arm" ["wrist"]) := by
  intro arm a
  obtain ⟨-, -, hjoints⟩ := projecting_commutes_with_arithmetic (α := ℝ)
  obtain ⟨hadd, -⟩ := hjoints .positions a (arm "elbow" 2 0) 0 rfl
  obtain ⟨hrefused, -⟩ := hjoints .positions a (arm "wrist" 2 0) 0 rfl
  refine ⟨⟨_, hadd, ?_, rfl, rfl⟩, hrefused⟩
  change [(1 : ℝ) + 1 * 2] = [3]
  norm_num

end Kinematics
