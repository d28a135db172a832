import Kinematics.Proofs.Rotation
import Kinematics.Cartesian.Algebra

/-!
# Composition of motions

The fields of a chain of moving frames, without names and without the torque. Up to the sign of
the orientation, composition is associative and the identity is neutral on both sides.
-/

namespace Kinematics

theorem CartesianState.compose_eq_ok_iff {α : Type} [Scalar α] {a b r : CartesianState α}
    {now : Instant} :
    a.compose b now = .ok r ↔
      a.empty = false ∧ b.empty = false ∧ a.name = b.frame ∧
        r = (new b.name a.frame now).setValues (composeValues a.values b.values) := by
  unfold compose State.assertFilled
  cases ha : a.empty <;> cases hb : b.empty <;> by_cases h : a.name = b.frame <;>
    simp [h, bind, Except.bind, pure, Except.pure, throw, throwThe, MonadExceptOf.throw, eq_comm]

namespace CartesianValues
open CartesianState (composeValues)

/-- Equal in position and, up to the sign of the orientation, in rotation. -/
structure SamePlacement (u v : CartesianValues ℝ) : Prop where
  position : u.position = v.position
  orientation : u.orientation.SameRotation v.orientation

/-- Equal but for the sign of the orientation and for the torque. -/
structure SameMotion (u v : CartesianValues ℝ) : Prop extends SamePlacement u v where
  linearVelocity : u.linearVelocity = v.linearVelocity
  angularVelocity : u.angularVelocity = v.angularVelocity
  linearAcceleration : u.linearAcceleration = v.linearAcceleration
  angularAcceleration : u.angularAcceleration = v.angularAcceleration
  force : u.force = v.force

section Equivalence
variable {u v w : CartesianValues ℝ}

@[refl] theorem SamePlacement.refl (v : CartesianValues ℝ) : v.SamePlacement v :=
  ⟨rfl, .refl _⟩

@[symm] theorem SamePlacement.symm (h : u.SamePlacement v) : v.SamePlacement u :=
  ⟨h.position.symm, h.orientation.symm⟩

@[trans] theorem SamePlacement.trans (h : u.SamePlacement v) (h' : v.SamePlacement w) :
    u.SamePlacement w :=
  ⟨h.position.trans h'.position, h.orientation.trans h'.orientation⟩

@[refl] theorem SameMotion.refl (v : CartesianValues ℝ) : v.SameMotion v :=
  ⟨.refl v, rfl, rfl, rfl, rfl, rfl⟩

@[symm] theorem SameMotion.symm (h : u.SameMotion v) : v.SameMotion u :=
  ⟨h.toSamePlacement.symm, h.2.symm, h.3.symm, h.4.symm, h.5.symm, h.6.symm⟩

@[trans] theorem SameMotion.trans (h : u.SameMotion v) (h' : v.SameMotion w) : u.SameMotion w :=
  ⟨h.toSamePlacement.trans h'.toSamePlacement, h.2.trans h'.2, h.3.trans h'.3, h.4.trans h'.4,
    h.5.trans h'.5, h.6.trans h'.6⟩

end Equivalence

section Fields
variable {α : Type} [Scalar α] (a b : CartesianValues α)

theorem position_compose :
    (composeValues a b).position = a.position + a.orientation.rotate b.position := rfl

theorem linearVelocity_compose :
    (composeValues a b).linearVelocity =
      a.linearVelocity + a.orientation.rotate b.linearVelocity +
        a.angularVelocity.cross (a.orientation.rotate b.position) := rfl

theorem angularVelocity_compose :
    (composeValues a b).angularVelocity =
      a.angularVelocity + a.orientation.rotate b.angularVelocity := rfl

theorem linearAcceleration_compose :
    (composeValues a b).linearAcceleration =
      a.linearAcceleration + a.orientation.rotate b.linearAcceleration +
        a.angularAcceleration.cross (a.orientation.rotate b.position) +
        (a.angularVelocity.cross (a.orientation.rotate b.linearVelocity)).scale Scalar.two +
        a.angularVelocity.cross (a.angularVelocity.cross (a.orientation.rotate b.position)) := rfl

theorem angularAcceleration_compose :
    (composeValues a b).angularAcceleration =
      a.angularAcceleration + a.orientation.rotate b.angularAcceleration +
        a.angularVelocity.cross (a.orientation.rotate b.angularVelocity) := rfl

theorem force_compose :
    (composeValues a b).force = a.force + a.orientation.rotate b.force := rfl

theorem torque_compose :
    (composeValues a b).torque =
      a.torque + a.orientation.rotate b.torque +
        (composeValues a b).position.cross (a.orientation.rotate b.force) := rfl

end Fields

section Identity
variable {α : Type} [Scalar α]

@[simp] theorem position_identity : (identity : CartesianValues α).position = 0 := rfl

@[simp] theorem orientation_identity :
    (identity : CartesianValues α).orientation = .identity := rfl

@[simp] theorem linearVelocity_identity :
    (identity : CartesianValues α).linearVelocity = 0 := rfl

@[simp] theorem angularVelocity_identity :
    (identity : CartesianValues α).angularVelocity = 0 := rfl

@[simp] theorem linearAcceleration_identity :
    (identity : CartesianValues α).linearAcceleration = 0 := rfl

@[simp] theorem angularAcceleration_identity :
    (identity : CartesianValues α).angularAcceleration = 0 := rfl

@[simp] theorem force_identity : (identity : CartesianValues α).force = 0 := rfl

@[simp] theorem torque_identity : (identity : CartesianValues α).torque = 0 := rfl

@[simp] theorem vector_identity (field : VectorField) :
    (identity : CartesianValues α).vector field = 0 :=
  vector_build _ _ field

end Identity

section Orientation
variable {a b : CartesianValues ℝ}

theorem orientation_compose (ha : a.orientation.IsRotation) (hb : b.orientation.IsRotation) :
    (composeValues a b).orientation.SameRotation (a.orientation * b.orientation) :=
  Quaternion.normalize_mul_alignedWith ha hb

theorem isRotation_compose (ha : a.orientation.IsRotation) (hb : b.orientation.IsRotation) :
    (composeValues a b).orientation.IsRotation :=
  (orientation_compose ha hb).isRotation (ha.mul hb)

theorem rotate_compose (ha : a.orientation.IsRotation) (hb : b.orientation.IsRotation)
    (v : Vector3 ℝ) :
    (composeValues a b).orientation.rotate v =
      a.orientation.rotate (b.orientation.rotate v) := by
  rw [(orientation_compose ha hb).rotate_eq, Quaternion.mul_rotate ha hb]

theorem isRotation_identity : (identity : CartesianValues ℝ).orientation.IsRotation :=
  Quaternion.IsRotation.identity

end Orientation

section Laws
variable {a b c a' b' : CartesianValues ℝ}

theorem SamePlacement.compose (ha : a.orientation.IsRotation) (hb : b.orientation.IsRotation)
    (h : a'.SamePlacement a) (h' : b'.SamePlacement b) :
    (composeValues a' b').SamePlacement (composeValues a b) where
  position := by
    simp only [position_compose, h.orientation.rotate_eq, h.position, h'.position]
  orientation :=
    (orientation_compose (h.orientation.isRotation ha) (h'.orientation.isRotation hb)).trans
      ((h.orientation.mul h'.orientation).trans (orientation_compose ha hb).symm)

theorem SameMotion.compose (ha : a.orientation.IsRotation) (hb : b.orientation.IsRotation)
    (h : a'.SameMotion a) (h' : b'.SameMotion b) :
    (composeValues a' b').SameMotion (composeValues a b) where
  toSamePlacement := .compose ha hb h.toSamePlacement h'.toSamePlacement
  linearVelocity := by
    simp only [linearVelocity_compose, h.orientation.rotate_eq, h.linearVelocity,
      h.angularVelocity, h'.position, h'.linearVelocity]
  angularVelocity := by
    simp only [angularVelocity_compose, h.orientation.rotate_eq, h.angularVelocity,
      h'.angularVelocity]
  linearAcceleration := by
    simp only [linearAcceleration_compose, h.orientation.rotate_eq, h.linearAcceleration,
      h.angularAcceleration, h.angularVelocity, h'.position, h'.linearVelocity,
      h'.linearAcceleration]
  angularAcceleration := by
    simp only [angularAcceleration_compose, h.orientation.rotate_eq, h.angularAcceleration,
      h.angularVelocity, h'.angularVelocity, h'.angularAcceleration]
  force := by
    simp only [force_compose, h.orientation.rotate_eq, h.force, h'.force]

/-- The transport terms of two nested compositions agree: the centripetal and the Coriolis terms
by Jacobi's identity, all others because rotations are linear and keep the cross product. -/
theorem compose_assoc (ha : a.orientation.IsRotation) (hb : b.orientation.IsRotation)
    (hc : c.orientation.IsRotation) :
    (composeValues (composeValues a b) c).SameMotion (composeValues a (composeValues b c)) where
  orientation :=
    have hleft := (orientation_compose (isRotation_compose ha hb) hc).trans
      ((orientation_compose ha hb).mul (.refl _))
    have hright := (orientation_compose ha (isRotation_compose hb hc)).trans
      (.mul (.refl _) (orientation_compose hb hc))
    hleft.trans (Quaternion.mul_assoc _ _ _ ▸ hright.symm)
  position := by
    simp only [position_compose, rotate_compose ha hb, Quaternion.rotate_add]
    abel
  linearVelocity := by
    simp only [linearVelocity_compose, angularVelocity_compose, position_compose,
      rotate_compose ha hb, Quaternion.rotate_add, Quaternion.rotate_cross ha, Vector3.cross_add,
      Vector3.add_cross]
    abel
  angularVelocity := by
    simp only [angularVelocity_compose, rotate_compose ha hb, Quaternion.rotate_add]
    abel
  linearAcceleration := by
    simp only [linearAcceleration_compose, linearVelocity_compose, angularVelocity_compose,
      angularAcceleration_compose, position_compose, rotate_compose ha hb, Quaternion.rotate_add,
      Quaternion.rotate_cross ha, Vector3.cross_add, Vector3.add_cross, Scalar.two_eq,
      Vector3.scale_two]
    have hjacobi := Vector3.cross_cross a.angularVelocity
      (a.orientation.rotate b.angularVelocity)
      (a.orientation.rotate (b.orientation.rotate c.position))
    rw [hjacobi]
    abel
  angularAcceleration := by
    simp only [angularAcceleration_compose, angularVelocity_compose, rotate_compose ha hb,
      Quaternion.rotate_add, Quaternion.rotate_cross ha, Vector3.cross_add, Vector3.add_cross]
    abel
  force := by
    simp only [force_compose, rotate_compose ha hb, Quaternion.rotate_add]
    abel

theorem identity_compose (hb : b.orientation.IsRotation) :
    (composeValues identity b).SameMotion b where
  orientation := by
    have h := orientation_compose isRotation_identity hb
    rwa [orientation_identity, Quaternion.identity_mul] at h
  position := by simp [position_compose]
  linearVelocity := by simp [linearVelocity_compose]
  angularVelocity := by simp [angularVelocity_compose]
  linearAcceleration := by simp [linearAcceleration_compose, Vector3.scale_two]
  angularAcceleration := by simp [angularAcceleration_compose]
  force := by simp [force_compose]

theorem compose_identity (ha : a.orientation.IsRotation) :
    (composeValues a identity).SameMotion a where
  orientation := by
    have h := orientation_compose ha isRotation_identity
    rwa [orientation_identity, Quaternion.mul_identity] at h
  position := by simp [position_compose]
  linearVelocity := by simp [linearVelocity_compose]
  angularVelocity := by simp [angularVelocity_compose]
  linearAcceleration := by simp [linearAcceleration_compose, Vector3.scale_two]
  angularAcceleration := by simp [angularAcceleration_compose]
  force := by simp [force_compose]

end Laws

/-- The composition of a list of motions, nested to the right. -/
def composeAll {α : Type} [Scalar α] (motions : List (CartesianValues α)) : CartesianValues α :=
  motions.foldr composeValues identity

theorem isRotation_composeAll {l : List (CartesianValues ℝ)}
    (hl : ∀ v ∈ l, v.orientation.IsRotation) : (composeAll l).orientation.IsRotation := by
  induction l with
  | nil => exact isRotation_identity
  | cons v l ih =>
    obtain ⟨hv, hl⟩ := List.forall_mem_cons.mp hl
    exact isRotation_compose hv (ih hl)

/-- The induction behind every change of bracketing: one step of it is associativity. -/
theorem composeAll_append {l l' : List (CartesianValues ℝ)}
    (hl : ∀ v ∈ l, v.orientation.IsRotation) (hl' : ∀ v ∈ l', v.orientation.IsRotation) :
    (composeAll (l ++ l')).SameMotion (composeValues (composeAll l) (composeAll l')) := by
  have hright := isRotation_composeAll hl'
  induction l with
  | nil => exact (identity_compose hright).symm
  | cons v l ih =>
    obtain ⟨hv, hl⟩ := List.forall_mem_cons.mp hl
    have hleft := isRotation_composeAll hl
    have hnested : (composeAll (v :: l ++ l')).SameMotion
        (composeValues v (composeValues (composeAll l) (composeAll l'))) :=
      .compose hv (isRotation_compose hleft hright) (.refl v) (ih hl)
    exact hnested.trans (compose_assoc hv hleft hright).symm

end CartesianValues
end Kinematics
