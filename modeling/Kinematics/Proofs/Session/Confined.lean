import Kinematics.Proofs.Cartesian.Confined
import Kinematics.Proofs.Joint.Confined
import Kinematics.Proofs.Session.Invariant
import Kinematics.Scalar.Binary64

/-!
# Projections stay confined

Whatever is done with it, a projection carries the fields of its kind and nothing else.
-/

namespace Kinematics

/-- Projections are confined; nothing is asked of general states. -/
def Property.confined {α : Type} [Scalar α] : Property α where
  cartesian _ := True
  projection p := p.Confined
  joint _ := True
  jointProjection p := p.Confined

namespace Property
variable {α : Type} [Scalar α] {held : List (Value α)}

theorem confined_of_makesProjection {c : Conduct α} (hheld : ∀ v ∈ held, confined.Holds v)
    {kind : CartesianKind} {p : CartesianProjection α kind} (h : MakesProjection c held p) :
    p.Confined := by
  have hconfined {kind : CartesianKind} {p : CartesianProjection α kind}
      (hp : .projection p ∈ held) : p.Confined := hheld (.projection p) hp
  cases h with
  | new kind name frame now => exact CartesianProjection.confined_new name frame now
  | random g kind name frame now => exact CartesianProjection.confined_random name frame now g
  | project kind hs => exact CartesianProjection.confined_project _
  | operate op hp hoperands h =>
    exact CartesianProjection.Operation.confined_of_apply (hconfined hp) h
  | @change _ p change hp hallowed => exact change.keeps_confined p (hconfined hp)
  | identity name frame now => exact CartesianPose.confined_ofPosition ..
  | ofPosition name position frame now => exact CartesianPose.confined_ofPosition ..
  | ofParts | ofIsometry => exact CartesianPose.confined_ofParts ..
  | zero kind name frame now =>
    exact (CartesianProjection.confined_new name frame now).setVector
      (CartesianScrew.linear_mem_fields kind) 0
  | ofVectors => exact CartesianScrew.confined_ofParts ..
  | compose now hp hq h => exact .of_project h
  | differentiatePose dt now hp h => exact CartesianPose.confined_of_differentiate h
  | integrateTwist dt now ht h => exact CartesianTwist.confined_of_integrate h
  | differentiateTwist dt now ht h => exact CartesianTwist.confined_of_differentiate h
  | integrateAcceleration dt now ha h => exact CartesianAcceleration.confined_of_integrate h
  | poseOfTwist now ht h => exact CartesianTwist.confined_of_integrate h
  | accelerationOfTwist now ht h => exact CartesianTwist.confined_of_differentiate h
  | rotation now he h =>
    obtain ⟨-, -, h⟩ := exists_of_bind_eq_ok h
    cases h
    exact CartesianPose.confined_ofParts ..

theorem confined_of_makesJointProjection {c : Conduct α} (hheld : ∀ v ∈ held, confined.Holds v)
    {field : JointField} {p : JointProjection α field} (h : MakesJointProjection c held p) :
    p.Confined := by
  have hconfined {field : JointField} {p : JointProjection α field}
      (hp : .jointProjection p ∈ held) : p.Confined := hheld (.jointProjection p) hp
  cases h with
  | new | withSize => exact JointProjection.confined_new ..
  | zero field name names now =>
    exact (JointProjection.confined_new name names now).of_values_eq rfl rfl
  | random g field name names now => exact JointProjection.confined_random name names now g
  | project field hs => exact JointProjection.confined_project _
  | operate op hp hoperands h => exact JointProjection.Operation.confined_of_apply (hconfined hp) h
  | @change _ p change hp hallowed => exact change.keeps_confined p (hconfined hp)
  | differentiatePositions dt now hp h => exact JointProjection.confined_of_rateOfChange h
  | integrateVelocities dt now hv h => exact JointProjection.confined_of_accumulated h
  | differentiateVelocities dt now hv h => exact JointProjection.confined_of_rateOfChange h
  | integrateAccelerations dt now ha h => exact JointProjection.confined_of_accumulated h

theorem confined_kept (c : Conduct α) : confined.Kept c where
  cartesian _ _ := trivial
  projection hheld h := confined_of_makesProjection hheld h
  joint _ _ := trivial
  jointProjection hheld h := confined_of_makesJointProjection hheld h

end Property

/-- Every projection of a session has the type of its kind, and the fields that are not of the kind
rest at identity, whatever the scalars are. -/
theorem projections_stay_confined {α : Type} [Scalar α] {c : Conduct α} {held : List (Value α)}
    (h : Session c held) :
    (∀ (kind : CartesianKind) (p : CartesianProjection α kind), .projection p ∈ held →
      p.general.type = kind.type ∧
      (.orientation ∉ kind.selection.fields → p.general.values.orientation = .identity) ∧
      ∀ field, .vector field ∉ kind.selection.fields → p.general.values.vector field = 0) ∧
    ∀ (field : JointField) (p : JointProjection α field), .jointProjection p ∈ held →
      p.general.type = field.type ∧
      ∀ other, other ≠ field → ∀ x ∈ p.general.values.get other, x = 0 := by
  have hheld := h.holds (Property.confined_kept c)
  refine ⟨fun kind p hp => ?_, fun field p hp => ?_⟩
  · have hconfined : p.Confined := hheld (.projection p) hp
    exact ⟨hconfined.type_eq, hconfined.orientation_eq, hconfined.vector_eq_zero⟩
  · have hconfined : p.Confined := hheld (.jointProjection p) hp
    exact ⟨hconfined.type_eq, fun _ => hconfined.eq_zero⟩

/-- A twist with undefined and infinite components is held for two seconds, the pose that it reaches
is stored in a parameter and read back, and joint velocities with an undefined one are held as
long. -/
theorem projections_stay_confined_undefined :
    let undefined : Float := 0 / 0
    let twist : CartesianTwist Float :=
      .ofParts .twist "arm" ⟨undefined, 0, 1⟩ ⟨0, 1 / 0, undefined⟩ "base" ⟨0⟩
    let velocities : JointVelocities Float :=
      ((JointProjection.Change.setValueAt 1 undefined).edit.applyTo
        (.zero .velocities "robot" ["hip", "knee"] ⟨2⟩)).2
    ∃ (pose : CartesianPose Float) (positions : JointPositions Float) (held : List (Value Float)),
      twist.integrate (.ofSeconds 2 0) ⟨1⟩ = .ok pose ∧
      velocities.integrate (.ofSeconds 2 0) ⟨3⟩ = .ok positions ∧
      Session .free held ∧ .projection pose ∈ held ∧ .jointProjection positions ∈ held ∧
      pose.general.type = .cartesianPose ∧ pose.general.values.angularVelocity = 0 ∧
      positions.general.type = .jointPositions ∧
      ∀ x ∈ positions.general.values.velocities, x = 0 := by
  intro undefined twist velocities
  obtain ⟨pose, hpose⟩ : ∃ pose, twist.integrate (.ofSeconds 2 0) ⟨1⟩ = .ok pose := ⟨_, rfl⟩
  obtain ⟨positions, hpositions⟩ :
    ∃ positions, velocities.integrate (.ofSeconds 2 0) ⟨3⟩ = .ok positions := ⟨_, rfl⟩
  let target : Parameter Float := .ofValue "target" ⟨.cartesianPose, pose⟩ ⟨4⟩
  have hstored : ∀ u ∈ (ParameterValue.mk .cartesianPose pose).state?,
      u ∈ [Value.projection pose, .projection twist] := by
    rintro _ ⟨⟩
    exact List.mem_cons_self
  have hread : target.get .cartesianPose = .ok pose := rfl
  let held : List (Value Float) := [.jointProjection positions, .jointProjection velocities,
    .jointProjection (.zero .velocities "robot" ["hip", "knee"] ⟨2⟩), .projection pose,
    .parameter target, .projection pose, .projection twist]
  have hsession : Session .free held :=
    Session.start
      |>.step (.projection (.ofVectors ..))
      |>.step (.projection (.integrateTwist _ _ List.mem_cons_self hpose))
      |>.step (.parameter (.ofValue _ _ _ hstored))
      |>.step (.get List.mem_cons_self hread rfl)
      |>.step (.jointProjection (.zero ..))
      |>.step (.jointProjection (.change (.setValueAt 1 undefined) List.mem_cons_self trivial))
      |>.step (.jointProjection (.integrateVelocities _ _ List.mem_cons_self hpositions))
  obtain ⟨hprojections, hjoints⟩ := projections_stay_confined hsession
  have hmem : .projection pose ∈ held := by simp [held]
  obtain ⟨htype, -, hvector⟩ := hprojections .pose pose hmem
  obtain ⟨hjointType, hzero⟩ := hjoints .positions positions List.mem_cons_self
  exact ⟨pose, positions, held, hpose, hpositions, hsession, hmem, List.mem_cons_self, htype,
    hvector .angularVelocity (by decide), hjointType, hzero .velocities (by decide)⟩

end Kinematics
