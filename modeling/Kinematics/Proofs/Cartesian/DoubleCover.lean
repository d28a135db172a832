import Kinematics.Proofs.Rotation.Angle
import Kinematics.Proofs.Cartesian.Groupoid
import Kinematics.Proofs.Cartesian.Operation
import Kinematics.Proofs.Cartesian.Confined
import Kinematics.Proofs.Cartesian.Sum
import Kinematics.Proofs.SameOutcome

/-!
# Both quaternions of a rotation

A rotation stands in a state as one of two quaternions. What is computed from a state depends on
the rotation alone, but for the sign of the orientation of the result. Multiples of a state are the
exception: they are taken of the angle of the quaternion itself.
-/

namespace Kinematics

namespace CartesianValues
open CartesianState (composeValues inverseValues negatedValues orientation_sum sumValues
  vector_negated vector_sum)

/-- Equal but for the sign of the orientation. -/
structure SameFields (u v : CartesianValues ℝ) : Prop where
  orientation : u.orientation.SameRotation v.orientation
  vector (field : VectorField) : u.vector field = v.vector field

namespace SameFields
variable {u v u' v' : CartesianValues ℝ}

theorem eq_setOrientation (h : u.SameFields v) : u = v.setOrientation u.orientation := by
  apply ext_vector
  · rfl
  · intro field
    rw [h.vector, vector_setOrientation]

/-- The vectors of a composition use the orientations only to turn vectors. -/
theorem compose (h : u.SameFields v) (h' : u'.SameFields v') :
    (composeValues u u').SameFields (composeValues v v') where
  orientation := (h.orientation.mul (h'.orientation.alignedWith _ _)).normalize
  vector field := by
    rw [h.eq_setOrientation, h'.eq_setOrientation]
    cases field <;>
      simp only [composeValues, CartesianValues.vector, setOrientation, h.orientation.rotate_eq]

theorem sum (h : u.SameFields v) (h' : u'.SameFields v') (subtract : Bool) :
    (sumValues subtract u u').SameFields (sumValues subtract v v') where
  orientation := by
    have haligned := h'.orientation.alignedWith u.orientation v.orientation
    rw [orientation_sum, orientation_sum]
    cases subtract with
    | false => exact (h.orientation.mul haligned).normalize
    | true => exact (h.orientation.mul haligned.conjugate).normalize
  vector field := by
    rw [vector_sum, vector_sum, h.vector, h'.vector]

theorem inverse (h : u.SameFields v) : (inverseValues u).SameFields (inverseValues v) where
  orientation := h.orientation.conjugate
  vector field := by
    rw [vector_inverse, vector_inverse, h.vector, h.orientation.conjugate.rotate_eq]

theorem negate (h : u.SameFields v) : (negatedValues u).SameFields (negatedValues v) where
  orientation := h.orientation.conjugate
  vector field := by
    rw [vector_negated, vector_negated, h.vector]

theorem normalize (h : u.SameFields v) (fields : List CartesianField) :
    (u.normalize fields).SameFields (v.normalize fields) where
  orientation := h.orientation
  vector field := by
    rw [CartesianValues.normalize, CartesianValues.normalize, vector_mapVectors,
      vector_mapVectors, h.vector]

theorem restrict (h : u.SameFields v) (fields : List CartesianField) :
    (u.restrict fields).SameFields (v.restrict fields) where
  orientation := by
    rw [orientation_restrict, orientation_restrict]
    split
    case isTrue => exact h.orientation
    case isFalse => rfl
  vector field := by
    rw [vector_restrict, vector_restrict, h.vector]

end SameFields
end CartesianValues

namespace CartesianState

/-- The state with the other quaternion of its rotation. -/
def opposite {α : Type} [Scalar α] (s : CartesianState α) : CartesianState α :=
  { s with values := s.values.setOrientation (-s.values.orientation) }

/-- Equal but for the sign of the orientation. -/
structure SameState (s t : CartesianState ℝ) : Prop where
  identity : s.toSpatialState = t.toSpatialState
  fields : s.values.SameFields t.values

theorem sameState_iff {s t : CartesianState ℝ} : s.SameState t ↔ s = t ∨ s = t.opposite := by
  constructor
  · obtain ⟨s, u⟩ := s
    obtain ⟨t, v⟩ := t
    rintro ⟨rfl, hfields⟩
    have hu : u = v.setOrientation u.orientation := hfields.eq_setOrientation
    obtain (hsame : u.orientation = v.orientation) | (hneg : u.orientation = -v.orientation) :=
      hfields.orientation
    · left
      rw [hu, hsame]
      rfl
    · right
      rw [hu, hneg]
      rfl
  · rintro (rfl | rfl)
    · exact ⟨rfl, .inl rfl, fun _ => rfl⟩
    · exact ⟨rfl, .inr rfl, t.values.vector_setOrientation _⟩

namespace SameState
variable {s t a b a' b' : CartesianState ℝ}

theorem compose (ha : a.SameState a') (hb : b.SameState b') (now : Instant) :
    SameOutcome SameState (a.compose b now) (a'.compose b' now) := by
  obtain ⟨a, u⟩ := a
  obtain ⟨b, v⟩ := b
  obtain ⟨rfl, hu⟩ := ha
  obtain ⟨rfl, hv⟩ := hb
  exact .check_bind rfl fun _ => .check_bind rfl fun _ =>
    .ite (.refused _) (.yields ⟨rfl, hu.compose hv⟩)

theorem combine (ha : a.SameState a') (hb : b.SameState b') (subtract : Bool) :
    SameOutcome SameState (combine subtract a b) (combine subtract a' b') := by
  obtain ⟨a, u⟩ := a
  obtain ⟨b, v⟩ := b
  obtain ⟨rfl, hu⟩ := ha
  obtain ⟨rfl, hv⟩ := hb
  rw [combine_eq, combine_eq]
  exact .check_bind rfl fun _ => .check_bind rfl fun _ => .check_bind rfl fun _ =>
    .yields ⟨rfl, hu.sum hv subtract⟩

theorem inverse (h : s.SameState t) : SameOutcome SameState s.inverse t.inverse := by
  obtain ⟨s, u⟩ := s
  obtain ⟨rfl, hu⟩ := h
  exact .check_bind rfl fun _ => .yields ⟨rfl, hu.inverse⟩

theorem negate (h : s.SameState t) : SameOutcome SameState s.negate t.negate := by
  obtain ⟨s, u⟩ := s
  obtain ⟨rfl, hu⟩ := h
  exact .check_bind rfl fun _ => .yields ⟨rfl, hu.negate⟩

theorem normalize (h : s.SameState t) (selection : CartesianSelection) :
    SameOutcome SameState (s.normalize selection) (t.normalize selection) := by
  obtain ⟨s, u⟩ := s
  obtain ⟨rfl, hu⟩ := h
  exact .check_bind rfl fun _ => .yields ⟨rfl, hu.normalize selection.fields⟩

theorem dist (ha : a.SameState a') (hb : b.SameState b') (selection : CartesianSelection) :
    a.dist b selection = a'.dist b' selection := by
  obtain ⟨a, u⟩ := a
  obtain ⟨b, v⟩ := b
  obtain ⟨rfl, hu⟩ := ha
  obtain ⟨rfl, hv⟩ := hb
  refine SameOutcome.eq (.check_bind rfl fun _ => .check_bind rfl fun _ =>
    .check_bind rfl fun _ => .yields ?_)
  apply congrArg Scalar.sum
  apply List.map_congr_left
  intro field _
  cases field with
  | orientation => exact hu.orientation.angle_eq hv.orientation
  | vector field =>
    change (u.vector field - v.vector field).norm = _
    rw [hu.vector, hv.vector]

theorem project (h : s.SameState t) (kind : CartesianKind) :
    (s.project kind).general.SameState (t.project kind).general := by
  obtain ⟨s, u⟩ := s
  obtain ⟨rfl, hu⟩ := h
  exact ⟨rfl, hu.restrict kind.selection.fields⟩

end SameState

/-- The same operation but for the signs of the orientations of its operands. -/
inductive SameOperation : Operation ℝ → Operation ℝ → Prop
  | compose {b b' : CartesianState ℝ} (h : b.SameState b') (now : Instant) :
      SameOperation (.compose b now) (.compose b' now)
  | inverse : SameOperation .inverse .inverse
  | add {b b' : CartesianState ℝ} (h : b.SameState b') : SameOperation (.add b) (.add b')
  | sub {b b' : CartesianState ℝ} (h : b.SameState b') : SameOperation (.sub b) (.sub b')
  | negate : SameOperation .negate .negate
  | normalize (selection : CartesianSelection) :
      SameOperation (.normalize selection) (.normalize selection)

theorem SameOperation.apply {op op' : Operation ℝ} (hop : SameOperation op op')
    {s t : CartesianState ℝ} (h : s.SameState t) :
    SameOutcome SameState (op.apply s) (op'.apply t) := by
  cases hop with
  | compose hb now => exact h.compose hb now
  | inverse => exact h.inverse
  | add hb => exact h.combine hb false
  | sub hb => exact h.combine hb true
  | negate => exact h.negate
  | normalize selection => exact h.normalize selection

/-- By induction on the operations: signs never come to matter later on. -/
theorem SameState.run {ops ops' : List (Operation ℝ)} (hops : List.Forall₂ SameOperation ops ops')
    {s t : CartesianState ℝ} (h : s.SameState t) :
    SameOutcome SameState (ops.foldlM Operation.apply s) (ops'.foldlM Operation.apply t) := by
  induction hops generalizing s t with
  | nil => exact .yields h
  | cons hop _ ih =>
    rw [List.foldlM_cons, List.foldlM_cons]
    exact (hop.apply h).bind ih

end CartesianState

/-- Equal but for the sign of the orientation. -/
def CartesianProjection.SameState {kind : CartesianKind} (p q : CartesianProjection ℝ kind) :
    Prop :=
  p.general.SameState q.general

namespace CartesianPose

/-- The pose with the other quaternion of its rotation. -/
def opposite {α : Type} [Scalar α] (p : CartesianPose α) : CartesianPose α :=
  p.map (·.opposite)

variable {p p' : CartesianPose ℝ}

theorem sameState_opposite (p : CartesianPose ℝ) : p.opposite.SameState p :=
  CartesianState.sameState_iff.mpr (.inr rfl)

theorem compose_sameOutcome (hp : p.SameState p') {kind : CartesianKind}
    {q q' : CartesianProjection ℝ kind} (hq : q.SameState q') (now : Instant) :
    SameOutcome CartesianProjection.SameState (p.compose q now) (p'.compose q' now) :=
  (CartesianState.SameState.compose hp hq now).bind fun h => .yields (h.project kind)

theorem transform_eq (hp : p.SameState p') (v : Vector3 ℝ) : p.transform v = p'.transform v := by
  obtain ⟨s, u⟩ := p
  obtain ⟨(rfl : s = _), hu⟩ := hp
  refine SameOutcome.eq (.check_bind rfl fun _ => .yields ?_)
  change u.orientation.rotate v + u.vector .position = _
  rw [hu.orientation.rotate_eq, hu.vector]
  rfl

end CartesianPose

open CartesianState (SameState) in
/-- To take the other quaternion of a rotation in one operand or in both changes no result but for
the sign of its orientation, and no refusal. -/
theorem operations_respect_double_cover :
    (∀ a a' b b' : CartesianState ℝ, a.SameState a' → b.SameState b' →
      (∀ now, SameOutcome SameState (a.compose b now) (a'.compose b' now)) ∧
      SameOutcome SameState (a.add b) (a'.add b') ∧
      SameOutcome SameState (a.sub b) (a'.sub b') ∧
      ∀ selection, a.dist b selection = a'.dist b' selection) ∧
    (∀ a a' : CartesianState ℝ, a.SameState a' →
      SameOutcome SameState a.inverse a'.inverse ∧
      SameOutcome SameState a.negate a'.negate ∧
      ∀ selection, SameOutcome SameState (a.normalize selection) (a'.normalize selection)) ∧
    ∀ p p' : CartesianPose ℝ, p.SameState p' →
      (∀ (kind : CartesianKind) (q q' : CartesianProjection ℝ kind), q.SameState q' → ∀ now,
        SameOutcome CartesianProjection.SameState (p.compose q now) (p'.compose q' now)) ∧
      ∀ v, p.transform v = p'.transform v := by
  refine ⟨fun a a' b b' ha hb => ?_, fun a a' h => ?_, fun p p' hp => ?_⟩
  · exact ⟨ha.compose hb, ha.combine hb false, ha.combine hb true, ha.dist hb⟩
  · exact ⟨h.inverse, h.negate, h.normalize⟩
  · exact ⟨fun kind q q' hq => CartesianPose.compose_sameOutcome hp hq,
      CartesianPose.transform_eq hp⟩

open CartesianPose in
theorem operations_respect_double_cover_turned :
    let link (name frame : String) : CartesianPose ℝ :=
      .ofParts name ⟨1, 0, 0⟩ ⟨3 / 5, 0, 0, 4 / 5⟩ frame ⟨0⟩
    let base := link "base" "world"
    let arm := link "arm" "base"
    base.opposite.general.values.orientation = ⟨-(3 / 5), -0, -0, -(4 / 5)⟩ ∧
    (∃ r r', base.compose arm ⟨1⟩ = .ok r ∧ base.opposite.compose arm.opposite ⟨1⟩ = .ok r' ∧
      r'.SameState r) ∧
    base.opposite.general.dist arm.general .all = base.general.dist arm.general .all ∧
    base.opposite.transform ⟨0, 1, 0⟩ = base.transform ⟨0, 1, 0⟩ := by
  intro link base arm
  obtain ⟨hpairs, -, hposes⟩ := operations_respect_double_cover
  obtain ⟨hcompose, htransform⟩ := hposes _ _ base.sameState_opposite
  obtain ⟨-, -, -, hdist⟩ := hpairs _ _ arm.general arm.general base.sameState_opposite
    (CartesianState.sameState_iff.mpr (.inl rfl))
  have hsame := hcompose _ _ _ arm.sameState_opposite ⟨1⟩
  rw [compose_eq_ok rfl rfl rfl, compose_eq_ok rfl rfl rfl] at hsame
  refine ⟨rfl, ⟨_, _, compose_eq_ok rfl rfl rfl ⟨1⟩, compose_eq_ok rfl rfl rfl ⟨1⟩, ?_⟩,
    hdist .all, htransform _⟩
  cases hsame with
  | yields h => exact h

end Kinematics
