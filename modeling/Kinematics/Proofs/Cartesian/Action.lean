import Kinematics.Proofs.Cartesian.Groupoid
import Kinematics.Proofs.Cartesian.Confined

/-!
# The action of poses on screws

A pose turns the two vectors of a screw, and a force gets a moment from its arm. What a confined
pose and a confined screw do not carry rests at zero, and no transport term remains.
-/

namespace Kinematics

namespace ScrewKind

/-- The arm of the linear vector about the origin. Only forces have one. -/
def arm {α : Type} [Scalar α] (kind : ScrewKind) (position : Vector3 α) : Vector3 α :=
  if kind = .wrench then position else 0

variable (kind : ScrewKind)

theorem arm_zero : kind.arm (0 : Vector3 ℝ) = 0 := ite_self 0

theorem arm_add (u v : Vector3 ℝ) : kind.arm (u + v) = kind.arm u + kind.arm v := by
  cases kind <;> simp [arm]

theorem arm_neg (v : Vector3 ℝ) : kind.arm (-v) = -kind.arm v := by
  cases kind <;> simp [arm]

theorem arm_rotate (q : Quaternion ℝ) (v : Vector3 ℝ) :
    kind.arm (q.rotate v) = q.rotate (kind.arm v) := by
  cases kind <;> simp [arm]

end ScrewKind

/-- All vectors but the position are zero. -/
structure CartesianValues.AtRest (v : CartesianValues ℝ) : Prop where
  linearVelocity : v.linearVelocity = 0
  angularVelocity : v.angularVelocity = 0
  linearAcceleration : v.linearAcceleration = 0
  angularAcceleration : v.angularAcceleration = 0
  force : v.force = 0
  torque : v.torque = 0

theorem CartesianPose.atRest {p : CartesianPose ℝ} (h : p.Confined) : p.general.values.AtRest where
  linearVelocity := h.vector_eq_zero .linearVelocity (by decide)
  angularVelocity := h.vector_eq_zero .angularVelocity (by decide)
  linearAcceleration := h.vector_eq_zero .linearAcceleration (by decide)
  angularAcceleration := h.vector_eq_zero .angularAcceleration (by decide)
  force := h.vector_eq_zero .force (by decide)
  torque := h.vector_eq_zero .torque (by decide)

theorem CartesianPose.confined_composed {k : CartesianKind} (p : CartesianPose ℝ)
    (q : CartesianProjection ℝ k) (now : Instant) : (p.composed q now).Confined :=
  CartesianProjection.confined_project _

namespace CartesianScrew
open CartesianState (composeValues)
variable {kind : ScrewKind}

/-- Equal in type, name, frame and all six values. -/
structure SameScrew (x y : CartesianScrew ℝ kind) : Prop where
  type : x.general.type = y.general.type
  name : x.general.name = y.general.name
  frame : x.general.frame = y.general.frame
  linear : x.linear = y.linear
  angular : x.angular = y.angular

section Composed
variable {a : CartesianPose ℝ} {x : CartesianScrew ℝ kind}

theorem linear_composed (ha : a.Confined) (x : CartesianScrew ℝ kind) (now : Instant) :
    linear (a.composed x now) = a.general.values.orientation.rotate x.linear := by
  have hrest := CartesianPose.atRest ha
  cases kind with
  | twist =>
    change (composeValues a.general.values x.general.values).linearVelocity = _
    rw [CartesianValues.linearVelocity_compose, hrest.linearVelocity, hrest.angularVelocity,
      zero_add, Vector3.zero_cross, add_zero]
    rfl
  | acceleration =>
    change (composeValues a.general.values x.general.values).linearAcceleration = _
    rw [CartesianValues.linearAcceleration_compose, hrest.linearAcceleration,
      hrest.angularAcceleration, hrest.angularVelocity, Scalar.two_eq, Vector3.scale_two]
    simp only [Vector3.zero_cross, zero_add, add_zero]
    rfl
  | wrench =>
    change (composeValues a.general.values x.general.values).force = _
    rw [CartesianValues.force_compose, hrest.force, zero_add]
    rfl

theorem angular_composed_of_ne (hkind : kind ≠ .wrench) (ha : a.Confined)
    (x : CartesianScrew ℝ kind) (now : Instant) :
    angular (a.composed x now) = a.general.values.orientation.rotate x.angular := by
  have hrest := CartesianPose.atRest ha
  cases kind with
  | twist =>
    change (composeValues a.general.values x.general.values).angularVelocity = _
    rw [CartesianValues.angularVelocity_compose, hrest.angularVelocity, zero_add]
    rfl
  | acceleration =>
    change (composeValues a.general.values x.general.values).angularAcceleration = _
    rw [CartesianValues.angularAcceleration_compose, hrest.angularAcceleration,
      hrest.angularVelocity, zero_add, Vector3.zero_cross, add_zero]
    rfl
  | wrench => exact absurd rfl hkind

/-- The position of the screw itself is not carried and does not lengthen the arm. -/
theorem angular_composed (ha : a.Confined) (hx : x.Confined) (now : Instant) :
    angular (a.composed x now) =
      a.general.values.orientation.rotate x.angular +
        (kind.arm a.general.values.position).cross
          (a.general.values.orientation.rotate x.linear) := by
  obtain rfl | hkind := eq_or_ne kind .wrench
  · have hposition : x.general.values.position = 0 :=
      hx.vector_eq_zero .position (by decide)
    change (composeValues a.general.values x.general.values).torque = _
    rw [CartesianValues.torque_compose, CartesianValues.position_compose,
      (CartesianPose.atRest ha).torque, zero_add, hposition, Quaternion.rotate_zero, add_zero,
      ScrewKind.arm, if_pos rfl]
    rfl
  · rw [angular_composed_of_ne hkind ha, ScrewKind.arm, if_neg hkind, Vector3.zero_cross, add_zero]

end Composed

section Action
variable {a b : CartesianPose ℝ} {x : CartesianScrew ℝ kind}

theorem composed_composed (ha : a.Placed) (hb : b.Placed) (ha' : a.Confined) (hb' : b.Confined)
    (hx : x.Confined) (t₁ t₂ t₃ t₄ : Instant) :
    SameScrew (CartesianPose.composed (a.composed b t₁) x t₂)
      (a.composed (b.composed x t₃) t₄) where
  type := rfl
  name := rfl
  frame := rfl
  linear := by
    rw [linear_composed (a.confined_composed b t₁), linear_composed ha',
      linear_composed hb', (CartesianPose.placement_composed a b t₁).orientation.rotate_eq,
      CartesianValues.rotate_compose ha.rotation hb.rotation]
  angular := by
    have hplacement := CartesianPose.placement_composed a b t₁
    have hturn (v : Vector3 ℝ) := (hplacement.orientation.rotate_eq v).trans
      (CartesianValues.rotate_compose ha.rotation hb.rotation v)
    rw [angular_composed (a.confined_composed b t₁) hx,
      angular_composed ha' (b.confined_composed x t₃), angular_composed hb' hx,
      linear_composed hb', hturn, hturn, hplacement.position, CartesianValues.position_compose,
      ScrewKind.arm_add, ScrewKind.arm_rotate, Quaternion.rotate_add,
      Quaternion.rotate_cross ha.rotation, Vector3.add_cross]
    abel

theorem identity_composed (hx : x.Confined) (name frame : String) (t₁ t₂ : Instant) :
    linear (CartesianPose.composed (.identity name frame t₁) x t₂) = x.linear ∧
      angular (CartesianPose.composed (.identity name frame t₁) x t₂) = x.angular := by
  have hconfined : (CartesianPose.identity name frame t₁ : CartesianPose ℝ).Confined :=
    CartesianPose.confined_ofPosition name 0 frame t₁
  have horientation :
      (CartesianPose.identity name frame t₁ : CartesianPose ℝ).general.values.orientation =
        .identity := rfl
  have hposition :
      (CartesianPose.identity name frame t₁ : CartesianPose ℝ).general.values.position = 0 := rfl
  constructor
  · rw [linear_composed hconfined, horientation, Quaternion.identity_rotate]
  · rw [angular_composed hconfined hx, horientation, hposition, ScrewKind.arm_zero,
      Quaternion.identity_rotate, Vector3.zero_cross, add_zero]

theorem inverted_composed (ha : a.Placed) (ha' : a.Confined) (hx : x.Confined) (t₁ t₂ : Instant) :
    linear (CartesianPose.composed a.inverted (a.composed x t₁) t₂) = x.linear ∧
      angular (CartesianPose.composed a.inverted (a.composed x t₁) t₂) = x.angular := by
  have hinverted : (a.inverted : CartesianPose ℝ).Confined :=
    CartesianProjection.confined_project _
  have hplacement := CartesianPose.placement_inverted a
  have hturn (v : Vector3 ℝ) :
      (a.inverted : CartesianPose ℝ).general.values.orientation.rotate v =
        a.general.values.orientation.conjugate.rotate v :=
    hplacement.orientation.rotate_eq v
  constructor
  · rw [linear_composed hinverted, linear_composed ha', hturn,
      Quaternion.conjugate_rotate_rotate ha.rotation]
  · rw [angular_composed hinverted (a.confined_composed x t₁),
      angular_composed ha' hx, linear_composed ha', hturn, hturn, hplacement.position,
      CartesianValues.position_inverse, ScrewKind.arm_rotate, ScrewKind.arm_neg,
      Quaternion.rotate_neg, Quaternion.rotate_add,
      Quaternion.rotate_cross ha.rotation.conjugate,
      Quaternion.conjugate_rotate_rotate ha.rotation,
      Quaternion.conjugate_rotate_rotate ha.rotation, Vector3.neg_cross, add_neg_cancel_right]

end Action
end CartesianScrew

open CartesianPose in
/-- Poses act on twists, accelerations and wrenches. The product of two poses acts as one after
the other, identities change none of the six values, and the inverse undoes what the pose did. -/
theorem poses_act_on_screws (kind : ScrewKind) :
    (∀ (a b : CartesianPose ℝ) (x : CartesianScrew ℝ kind), a.Placed → b.Placed →
      a.Confined → b.Confined → x.Confined → x.general.empty = false →
      a.general.name = b.general.frame → b.general.name = x.general.frame →
      ∀ t₁ t₂ t₃ t₄ : Instant, ∃ y z : CartesianScrew ℝ kind,
        (do compose (← a.compose b t₁) x t₂) = .ok y ∧
        (do a.compose (← b.compose x t₃) t₄) = .ok z ∧ y.SameScrew z) ∧
    (∀ x : CartesianScrew ℝ kind, x.Confined → x.general.empty = false →
      ∀ (frame : String) (t₁ t₂ : Instant), ∃ y : CartesianScrew ℝ kind,
        (identity x.general.frame frame t₁).compose x t₂ = .ok y ∧
        y.linear = x.linear ∧ y.angular = x.angular) ∧
    ∀ (a : CartesianPose ℝ) (x : CartesianScrew ℝ kind), a.Placed → a.Confined →
      x.Confined → x.general.empty = false → x.general.frame = a.general.name →
      ∀ t₁ t₂ : Instant, ∃ y : CartesianScrew ℝ kind,
        (do compose (← a.inverse) (← a.compose x t₁) t₂) = .ok y ∧
        y.general.frame = x.general.frame ∧ y.linear = x.linear ∧ y.angular = x.angular := by
  refine ⟨?_, ?_, ?_⟩
  · intro a b x ha hb ha' hb' hx hfilled hab hbx t₁ t₂ t₃ t₄
    refine ⟨_, _, ?_, ?_, CartesianScrew.composed_composed ha hb ha' hb' hx t₁ t₂ t₃ t₄⟩
    · rw [compose_eq_ok ha.filled hb.filled hab]
      exact compose_eq_ok (ha.composed hb t₁).filled hfilled hbx t₂
    · rw [compose_eq_ok hb.filled hfilled hbx]
      exact compose_eq_ok ha.filled (filled_composed b x t₃) hab t₄
  · intro x hx hfilled frame t₁ t₂
    exact ⟨_, compose_eq_ok (placed_identity _ frame t₁).filled hfilled rfl t₂,
      CartesianScrew.identity_composed hx _ frame t₁ t₂⟩
  · intro a x ha ha' hx hfilled hframe t₁ t₂
    refine ⟨_, ?_, hframe.symm, CartesianScrew.inverted_composed ha ha' hx t₁ t₂⟩
    rw [CartesianProjection.inverse_eq_ok ha.filled, compose_eq_ok ha.filled hfilled hframe.symm]
    exact compose_eq_ok ha.inverted.filled (filled_composed a x t₁) rfl t₂

open CartesianPose in
theorem poses_act_on_screws_lever :
    let pose (name frame : String) : CartesianPose ℝ :=
      .ofParts name ⟨1, 0, 0⟩ ⟨3 / 5, 0, 0, 4 / 5⟩ frame ⟨0⟩
    let push : CartesianWrench ℝ := .ofParts .wrench "push" ⟨0, 1, 0⟩ ⟨0, 0, 2⟩ "arm" ⟨0⟩
    let a := pose "base" "world"
    let b := pose "arm" "base"
    (∃ y z : CartesianWrench ℝ, (do compose (← a.compose b ⟨1⟩) push ⟨2⟩) = .ok y ∧
      (do a.compose (← b.compose push ⟨3⟩) ⟨4⟩) = .ok z ∧ y.SameScrew z) ∧
    (∃ y : CartesianWrench ℝ, (identity "arm" "base" ⟨1⟩).compose push ⟨2⟩ = .ok y ∧
      y.linear = push.linear ∧ y.angular = push.angular) ∧
    ∃ y : CartesianWrench ℝ, (do compose (← b.inverse) (← b.compose push ⟨1⟩) ⟨2⟩) = .ok y ∧
      y.general.frame = "arm" ∧ y.linear = push.linear ∧ y.angular = push.angular := by
  intro pose push a b
  have hrotation : (⟨3 / 5, 0, 0, 4 / 5⟩ : Quaternion ℝ).IsRotation := by
    norm_num [Quaternion.IsRotation, Quaternion.normSq, Quaternion.dot]
  have hplaced (name frame : String) : (pose name frame).Placed := ⟨rfl, hrotation⟩
  have hconfined (name frame : String) : (pose name frame).Confined :=
    confined_ofParts name _ _ frame _
  have hpush : push.Confined := CartesianScrew.confined_ofParts "push" _ _ "arm" _
  obtain ⟨hproduct, hidentity, hinverse⟩ := poses_act_on_screws .wrench
  exact ⟨hproduct a b push (hplaced "base" "world") (hplaced "arm" "base")
      (hconfined "base" "world") (hconfined "arm" "base") hpush rfl rfl rfl ⟨1⟩ ⟨2⟩ ⟨3⟩ ⟨4⟩,
    hidentity push hpush rfl "base" ⟨1⟩ ⟨2⟩,
    hinverse b push (hplaced "arm" "base") (hconfined "arm" "base") hpush rfl rfl ⟨1⟩ ⟨2⟩⟩

end Kinematics
