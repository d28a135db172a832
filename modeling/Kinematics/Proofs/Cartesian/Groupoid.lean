import Kinematics.Proofs.Cartesian.Motion
import Kinematics.Cartesian.Pose

/-!
# The groupoid of poses

Poses lead from their frame to their reference frame. Filled poses whose quaternions are rotations
compose as the arrows of a groupoid do, with the names of frames as its objects, when the two
quaternions of a rotation are taken as one.
-/

namespace Kinematics

namespace CartesianValues
open CartesianState (composeValues inverseValues)

theorem orientation_inverse {α : Type} [Scalar α] (v : CartesianValues α) :
    (inverseValues v).orientation = v.orientation.conjugate := rfl

theorem vector_inverse {α : Type} [Scalar α] (v : CartesianValues α) (field : VectorField) :
    (inverseValues v).vector field = v.orientation.conjugate.rotate (-v.vector field) := by
  cases field <;> rfl

theorem position_inverse {α : Type} [Scalar α] (v : CartesianValues α) :
    (inverseValues v).position = v.orientation.conjugate.rotate (-v.position) :=
  vector_inverse v .position

section Inverse
variable {a b a' : CartesianValues ℝ}

theorem isRotation_inverse (ha : a.orientation.IsRotation) :
    (inverseValues a).orientation.IsRotation := ha.conjugate

theorem SamePlacement.inverse (h : a'.SamePlacement a) :
    (inverseValues a').SamePlacement (inverseValues a) where
  position := by
    rw [position_inverse, position_inverse, h.orientation.conjugate.rotate_eq, h.position]
  orientation := h.orientation.conjugate

theorem compose_inverse (ha : a.orientation.IsRotation) :
    (composeValues a (inverseValues a)).SamePlacement identity where
  position := by
    rw [position_compose, position_inverse, Quaternion.rotate_conjugate_rotate ha, add_neg_cancel]
    rfl
  orientation := by
    have h := orientation_compose ha (isRotation_inverse ha)
    rwa [orientation_inverse, ha.mul_conjugate] at h

theorem inverse_compose (ha : a.orientation.IsRotation) :
    (composeValues (inverseValues a) a).SamePlacement identity where
  position := by
    rw [position_compose, position_inverse, orientation_inverse, ← Quaternion.rotate_add,
      neg_add_cancel, Quaternion.rotate_zero]
    rfl
  orientation := by
    have h := orientation_compose (isRotation_inverse ha) ha
    rwa [orientation_inverse, ha.conjugate_mul] at h

theorem inverse_composeValues (ha : a.orientation.IsRotation) (hb : b.orientation.IsRotation) :
    (inverseValues (composeValues a b)).SamePlacement
      (composeValues (inverseValues b) (inverseValues a)) := by
  have hsame := (orientation_compose ha hb).conjugate
  rw [Quaternion.conjugate_mul] at hsame
  refine ⟨?_, ?_⟩
  · have hturn (v : Vector3 ℝ) : (composeValues a b).orientation.conjugate.rotate v =
        b.orientation.conjugate.rotate (a.orientation.conjugate.rotate v) := by
      rw [hsame.rotate_eq, Quaternion.mul_rotate hb.conjugate ha.conjugate]
    simp only [position_inverse, position_compose, orientation_inverse, hturn, neg_add,
      Quaternion.rotate_add, ← Quaternion.rotate_neg a.orientation,
      Quaternion.conjugate_rotate_rotate ha]
    exact add_comm _ _
  · exact hsame.trans (orientation_compose (isRotation_inverse hb) (isRotation_inverse ha)).symm

end Inverse
end CartesianValues

/-- A projection in the frame from which the pose leads, seen from its reference frame. -/
def CartesianPose.composed {α : Type} [Scalar α] {kind : CartesianKind} (p : CartesianPose α)
    (q : CartesianProjection α kind) (now : Instant) : CartesianProjection α kind :=
  ((CartesianState.new q.general.name p.general.frame now).setValues
    (CartesianState.composeValues p.general.values q.general.values)).project kind

theorem CartesianPose.filled_composed {α : Type} [Scalar α] {kind : CartesianKind}
    (p : CartesianPose α) (q : CartesianProjection α kind) (now : Instant) :
    (p.composed q now).general.empty = false := rfl

/-- The reference frame of a projection, seen from the frame it leads from. -/
def CartesianProjection.inverted {α : Type} [Scalar α] {kind : CartesianKind}
    (p : CartesianProjection α kind) : CartesianProjection α kind :=
  CartesianState.project { p.general with
    name := p.general.frame
    frame := p.general.name
    values := CartesianState.inverseValues p.general.values } kind

theorem CartesianPose.compose_eq_ok {α : Type} [Scalar α] {kind : CartesianKind}
    {p : CartesianPose α} {q : CartesianProjection α kind} (hp : p.general.empty = false)
    (hq : q.general.empty = false) (hlink : p.general.name = q.general.frame) (now : Instant) :
    p.compose q now = .ok (p.composed q now) := by
  have h : p.general.compose q.general now = .ok _ :=
    CartesianState.compose_eq_ok_iff.mpr ⟨hp, hq, hlink, rfl⟩
  rw [compose, h]
  rfl

theorem CartesianState.inverse_eq_ok {α : Type} [Scalar α] {s : CartesianState α}
    (hs : s.empty = false) :
    s.inverse =
      .ok { s with name := s.frame, frame := s.name, values := inverseValues s.values } := by
  rw [inverse, State.assertFilled_eq_ok hs]
  rfl

theorem CartesianProjection.inverse_eq_ok {α : Type} [Scalar α] {kind : CartesianKind}
    {p : CartesianProjection α kind} (hp : p.general.empty = false) :
    p.inverse = .ok p.inverted := by
  rw [inverse, CartesianState.inverse_eq_ok hp]
  rfl

namespace CartesianPose
open CartesianState (composeValues inverseValues)

/-- A filled pose whose quaternion is a rotation. -/
structure Placed (p : CartesianPose ℝ) : Prop where
  filled : p.general.empty = false
  rotation : p.general.values.orientation.IsRotation

/-- Equal in name, frame, emptiness and position, and up to sign in orientation. -/
structure SamePose (p q : CartesianPose ℝ) : Prop where
  name : p.general.name = q.general.name
  frame : p.general.frame = q.general.frame
  empty : p.general.empty = q.general.empty
  placement : p.general.values.SamePlacement q.general.values

section Groupoid
variable {a b c : CartesianPose ℝ}

theorem placement_project (s : CartesianState ℝ) :
    (s.project .pose).general.values.SamePlacement s.values := ⟨rfl, .inl rfl⟩

theorem placement_composed (a b : CartesianPose ℝ) (now : Instant) :
    (a.composed b now).general.values.SamePlacement
      (composeValues a.general.values b.general.values) := placement_project _

theorem placement_inverted (a : CartesianPose ℝ) :
    a.inverted.general.values.SamePlacement (inverseValues a.general.values) :=
  placement_project _

theorem placed_identity (name frame : String) (now : Instant) :
    (identity name frame now : CartesianPose ℝ).Placed := ⟨rfl, Quaternion.IsRotation.identity⟩

theorem Placed.composed (ha : a.Placed) (hb : b.Placed) (now : Instant) :
    Placed (a.composed b now) :=
  ⟨filled_composed a b now, CartesianValues.isRotation_compose ha.rotation hb.rotation⟩

theorem Placed.inverted (ha : a.Placed) : Placed a.inverted :=
  ⟨ha.filled, CartesianValues.isRotation_inverse ha.rotation⟩

theorem composed_assoc (ha : a.Placed) (hb : b.Placed) (hc : c.Placed) (t₁ t₂ t₃ t₄ : Instant) :
    SamePose (composed (a.composed b t₁) c t₂) (a.composed (b.composed c t₃) t₄) where
  name := rfl
  frame := rfl
  empty := rfl
  placement := by
    have hleft := (placement_composed (a.composed b t₁) c t₂).trans
      (.compose (CartesianValues.isRotation_compose ha.rotation hb.rotation) hc.rotation
        (placement_composed a b t₁) (.refl _))
    have hright := (placement_composed a (b.composed c t₃) t₄).trans
      (.compose ha.rotation (CartesianValues.isRotation_compose hb.rotation hc.rotation)
        (.refl _) (placement_composed b c t₃))
    have hassoc := CartesianValues.compose_assoc ha.rotation hb.rotation hc.rotation
    exact hleft.trans (hassoc.toSamePlacement.trans hright.symm)

theorem identity_composed (ha : a.Placed) (t₁ t₂ : Instant) :
    SamePose (composed (identity a.general.frame a.general.frame t₁) a t₂) a where
  name := rfl
  frame := rfl
  empty := ha.filled.symm
  placement := (placement_composed _ a t₂).trans
    (CartesianValues.identity_compose ha.rotation).toSamePlacement

theorem composed_identity (ha : a.Placed) (t₁ t₂ : Instant) :
    SamePose (a.composed (identity a.general.name a.general.name t₁) t₂) a where
  name := rfl
  frame := rfl
  empty := ha.filled.symm
  placement := (placement_composed a _ t₂).trans
    (CartesianValues.compose_identity ha.rotation).toSamePlacement

theorem composed_inverted (ha : a.Placed) (t₁ t₂ : Instant) :
    SamePose (a.composed a.inverted t₁) (identity a.general.frame a.general.frame t₂) where
  name := rfl
  frame := rfl
  empty := rfl
  placement := by
    have h := CartesianValues.SamePlacement.compose ha.rotation
      (CartesianValues.isRotation_inverse ha.rotation) (.refl _) (placement_inverted a)
    exact (placement_composed a a.inverted t₁).trans
      (h.trans (CartesianValues.compose_inverse ha.rotation))

theorem inverted_composed (ha : a.Placed) (t₁ t₂ : Instant) :
    SamePose (composed a.inverted a t₁) (identity a.general.name a.general.name t₂) where
  name := rfl
  frame := rfl
  empty := rfl
  placement := by
    have h := CartesianValues.SamePlacement.compose
      (CartesianValues.isRotation_inverse ha.rotation) ha.rotation (placement_inverted a) (.refl _)
    exact (placement_composed a.inverted a t₁).trans
      (h.trans (CartesianValues.inverse_compose ha.rotation))

/-- The way back along two poses. -/
theorem composed_inverted_inverted (ha : a.Placed) (hb : b.Placed) (t₁ t₂ : Instant) :
    SamePose (a.composed b t₁).inverted (composed b.inverted a.inverted t₂) where
  name := rfl
  frame := rfl
  empty := rfl
  placement := by
    have hleft := (placement_inverted (a.composed b t₁)).trans (placement_composed a b t₁).inverse
    have hright := (placement_composed b.inverted a.inverted t₂).trans
      (.compose (CartesianValues.isRotation_inverse hb.rotation)
        (CartesianValues.isRotation_inverse ha.rotation) (placement_inverted b)
        (placement_inverted a))
    have hback := CartesianValues.inverse_composeValues ha.rotation hb.rotation
    exact hleft.trans (hback.trans hright.symm)

end Groupoid
end CartesianPose

open CartesianPose in
/-- Poses form a groupoid over the names of frames: with matching frames all its operations
succeed, and its laws hold up to the sign of the quaternion. -/
theorem poses_form_groupoid :
    (∀ a b c : CartesianPose ℝ, a.Placed → b.Placed → c.Placed →
      a.general.name = b.general.frame → b.general.name = c.general.frame →
      ∀ t₁ t₂ t₃ t₄ : Instant, ∃ x y : CartesianPose ℝ,
        (do compose (← a.compose b t₁) c t₂) = .ok x ∧
        (do a.compose (← b.compose c t₃) t₄) = .ok y ∧ x.Placed ∧ x.SamePose y) ∧
    (∀ a : CartesianPose ℝ, a.Placed → ∀ t₁ t₂ : Instant,
      (∃ x : CartesianPose ℝ,
        (identity a.general.frame a.general.frame t₁).compose a t₂ = .ok x ∧ x.SamePose a) ∧
      ∃ x : CartesianPose ℝ,
        a.compose (identity a.general.name a.general.name t₁) t₂ = .ok x ∧ x.SamePose a) ∧
    (∀ a : CartesianPose ℝ, a.Placed → ∀ t₁ t₂ : Instant, ∃ i x y : CartesianPose ℝ,
      a.inverse = .ok i ∧ i.Placed ∧
        a.compose i t₁ = .ok x ∧ x.SamePose (identity a.general.frame a.general.frame t₂) ∧
        i.compose a t₁ = .ok y ∧ y.SamePose (identity a.general.name a.general.name t₂)) ∧
    ∀ a b : CartesianPose ℝ, a.Placed → b.Placed → a.general.name = b.general.frame →
      ∀ t₁ t₂ : Instant, ∃ x y : CartesianPose ℝ,
        (do CartesianProjection.inverse (← a.compose b t₁)) = .ok x ∧
        (do compose (← b.inverse) (← a.inverse) t₂) = .ok y ∧ x.SamePose y := by
  refine ⟨?_, ?_, ?_, ?_⟩
  · intro a b c ha hb hc hab hbc t₁ t₂ t₃ t₄
    refine ⟨_, _, ?_, ?_, (ha.composed hb t₁).composed hc t₂, composed_assoc ha hb hc t₁ t₂ t₃ t₄⟩
    · rw [compose_eq_ok ha.filled hb.filled hab]
      exact compose_eq_ok (filled_composed a b t₁) hc.filled hbc t₂
    · rw [compose_eq_ok hb.filled hc.filled hbc]
      exact compose_eq_ok ha.filled (filled_composed b c t₃) hab t₄
  · intro a ha t₁ t₂
    exact ⟨⟨_, compose_eq_ok rfl ha.filled rfl t₂, identity_composed ha t₁ t₂⟩,
      ⟨_, compose_eq_ok ha.filled rfl rfl t₂, composed_identity ha t₁ t₂⟩⟩
  · intro a ha t₁ t₂
    exact ⟨_, _, _, CartesianProjection.inverse_eq_ok ha.filled, ha.inverted,
      compose_eq_ok ha.filled ha.inverted.filled rfl t₁, composed_inverted ha t₁ t₂,
      compose_eq_ok ha.inverted.filled ha.filled rfl t₁, inverted_composed ha t₁ t₂⟩
  · intro a b ha hb hab t₁ t₂
    refine ⟨_, _, ?_, ?_, composed_inverted_inverted ha hb t₁ t₂⟩
    · rw [compose_eq_ok ha.filled hb.filled hab]
      exact CartesianProjection.inverse_eq_ok (filled_composed a b t₁)
    · rw [CartesianProjection.inverse_eq_ok hb.filled, CartesianProjection.inverse_eq_ok ha.filled]
      exact compose_eq_ok hb.inverted.filled ha.inverted.filled hab.symm t₂

open CartesianPose in
theorem poses_form_groupoid_turned :
    let link (name frame : String) : CartesianPose ℝ :=
      .ofParts name ⟨1, 0, 0⟩ ⟨3 / 5, 0, 0, -4 / 5⟩ frame ⟨0⟩
    let a := link "base" "world"
    let b := link "arm" "base"
    let c := link "hand" "arm"
    (∃ x y : CartesianPose ℝ, (do compose (← a.compose b ⟨1⟩) c ⟨2⟩) = .ok x ∧
      (do a.compose (← b.compose c ⟨3⟩) ⟨4⟩) = .ok y ∧ x.SamePose y) ∧
    (∃ x : CartesianPose ℝ, (identity "world" "world" ⟨1⟩).compose a ⟨2⟩ = .ok x ∧
      x.SamePose a) ∧
    (∃ i x : CartesianPose ℝ, a.inverse = .ok i ∧ a.compose i ⟨1⟩ = .ok x ∧
      x.SamePose (identity "world" "world" ⟨2⟩)) ∧
    ∃ x y : CartesianPose ℝ, (do CartesianProjection.inverse (← a.compose b ⟨1⟩)) = .ok x ∧
      (do compose (← b.inverse) (← a.inverse) ⟨2⟩) = .ok y ∧ x.SamePose y := by
  intro link a b c
  have hrotation : (⟨3 / 5, 0, 0, -4 / 5⟩ : Quaternion ℝ).IsRotation := by
    norm_num [Quaternion.IsRotation, Quaternion.normSq, Quaternion.dot]
  have hplaced (name frame : String) : (link name frame).Placed := ⟨rfl, hrotation⟩
  have ha : a.Placed := hplaced "base" "world"
  have hb : b.Placed := hplaced "arm" "base"
  have hc : c.Placed := hplaced "hand" "arm"
  obtain ⟨hassoc, hidentity, hinverse, hback⟩ := poses_form_groupoid
  obtain ⟨x, y, hx, hy, -, hxy⟩ := hassoc a b c ha hb hc rfl rfl ⟨1⟩ ⟨2⟩ ⟨3⟩ ⟨4⟩
  obtain ⟨hleft, -⟩ := hidentity a ha ⟨1⟩ ⟨2⟩
  obtain ⟨i, e, -, hi, -, he, heq, -⟩ := hinverse a ha ⟨1⟩ ⟨2⟩
  exact ⟨⟨x, y, hx, hy, hxy⟩, hleft, ⟨i, e, hi, he, heq⟩, hback a b ha hb rfl ⟨1⟩ ⟨2⟩⟩

end Kinematics
