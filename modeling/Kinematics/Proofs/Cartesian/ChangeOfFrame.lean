import Kinematics.Proofs.Cartesian.Action
import Kinematics.Proofs.Cartesian.Distance
import Kinematics.Proofs.Cartesian.RigidMotion

/-!
# Distances seen from another frame

To express two projections of one kind in another frame turns their vectors and their rotations
alike and shifts both positions by the same vector, so that they stay as far apart as they were.
Wrenches are the exception: each force gets a moment of its own from the arm of the frame.
-/

namespace Kinematics

open CartesianValues (distance distance_congr)

namespace CartesianPose
variable {c x y : CartesianPose ℝ}

theorem distance_composed (hc : c.Placed) (hx : x.Oriented) (hy : y.Oriented)
    (t₁ t₂ : Instant) :
    distance (CartesianKind.selection .pose).fields (c.composed x t₁).general.values
        (c.composed y t₂).general.values =
      distance (CartesianKind.selection .pose).fields x.general.values y.general.values := by
  apply distance_congr
  intro field hin
  obtain rfl | rfl := List.mem_pair.mp hin
  · change ((c.composed x t₁).general.values.position -
      (c.composed y t₂).general.values.position).norm = _
    rw [position_composed, position_composed]
    exact Isometry.norm_apply_sub_apply hc.rotation _ _
  · have hturned (z : CartesianPose ℝ) (hz : z.Oriented) (now : Instant) :
        (c.composed z now).general.values.orientation.SameRotation
          (c.general.values.orientation * z.general.values.orientation) :=
      CartesianValues.orientation_compose hc.rotation hz
    exact ((hturned x hx t₁).angle_eq (hturned y hy t₂)).trans
      (Quaternion.angle_mul_mul _ _ hc.rotation)

end CartesianPose

namespace CartesianScrew
variable {kind : ScrewKind} {c : CartesianPose ℝ}

theorem distance_composed (hkind : kind ≠ .wrench) (hc : c.Placed) (hc' : c.Confined)
    (x y : CartesianScrew ℝ kind) (t₁ t₂ : Instant) :
    distance (CartesianKind.screw kind).selection.fields (c.composed x t₁).general.values
        (c.composed y t₂).general.values =
      distance (CartesianKind.screw kind).selection.fields x.general.values y.general.values := by
  have hturned (u v : Vector3 ℝ) : (c.general.values.orientation.rotate u -
      c.general.values.orientation.rotate v).norm = (u - v).norm := by
    rw [← Quaternion.rotate_sub, Quaternion.norm_rotate hc.rotation]
  rw [ScrewKind.fields_selection]
  apply distance_congr
  intro field hin
  obtain rfl | rfl := List.mem_pair.mp hin
  · change (linear (c.composed x t₁) - linear (c.composed y t₂)).norm = _
    rw [linear_composed hc', linear_composed hc']
    exact hturned _ _
  · change (angular (c.composed x t₁) - angular (c.composed y t₂)).norm = _
    rw [angular_composed_of_ne hkind hc', angular_composed_of_ne hkind hc']
    exact hturned _ _

end CartesianScrew

open CartesianState (dist_eq_ok) in
/-- Two poses, twists or accelerations that are expressed in another frame are related to each other
and as far apart as before. The pose of the frame has no motion of its own to add to theirs, as no
pose has that the operations make. -/
theorem composition_preserves_distances {kind : CartesianKind} (hkind : kind ≠ .screw .wrench)
    {c : CartesianPose ℝ} (hc : c.Placed) (hc' : c.Confined) {x y : CartesianProjection ℝ kind}
    (hx : x.general.empty = false) (hy : y.general.empty = false) (hx' : x.Oriented)
    (hy' : y.Oriented) (hxc : x.general.frame = c.general.name)
    (hyc : y.general.frame = c.general.name) (t₁ t₂ : Instant) :
    ∃ x' y' d, c.compose x t₁ = .ok x' ∧ c.compose y t₂ = .ok y' ∧
      x'.general.toSpatialState.Related y'.general.toSpatialState ∧
      x'.general.dist y'.general kind.selection = .ok d ∧
      x.general.dist y.general kind.selection = .ok d := by
  have hrelated : x.general.toSpatialState.Related y.general.toSpatialState :=
    .inr (.inr (hxc.trans hyc.symm))
  refine ⟨c.composed x t₁, c.composed y t₂, _, CartesianPose.compose_eq_ok hc.filled hx hxc.symm t₁,
    CartesianPose.compose_eq_ok hc.filled hy hyc.symm t₂, .inr (.inr rfl),
    dist_eq_ok (CartesianPose.filled_composed c x t₁) (CartesianPose.filled_composed c y t₂)
      (.inr (.inr rfl)) kind.selection, ?_⟩
  rw [dist_eq_ok hx hy hrelated]
  cases kind with
  | pose => rw [CartesianPose.distance_composed hc hx' hy']
  | screw kind =>
    have hkind : kind ≠ .wrench := fun h => hkind (congrArg _ h)
    rw [CartesianScrew.distance_composed hkind hc hc']

/-- Poses with quaternions in opposite hemispheres, seen from a shifted and turned frame. -/
theorem composition_preserves_distances_opposite :
    let pose (name : String) (v : Vector3 ℝ) (q : Quaternion ℝ) (frame : String) :
        CartesianPose ℝ := .ofParts name v q frame ⟨0⟩
    let c := pose "base" ⟨1, 0, 0⟩ ⟨3 / 5, 0, 0, 4 / 5⟩ "world"
    let x := pose "arm" ⟨0, 1, 0⟩ ⟨3 / 5, 0, 4 / 5, 0⟩ "base"
    let y := pose "hand" ⟨0, 0, 1⟩ ⟨-3 / 5, -4 / 5, 0, 0⟩ "base"
    c.Placed ∧ c.Confined ∧ x.Oriented ∧ y.Oriented ∧
      ∃ x' y' d, c.compose x ⟨1⟩ = .ok x' ∧ c.compose y ⟨2⟩ = .ok y' ∧
        x'.general.dist y'.general .pose = .ok d ∧ x.general.dist y.general .pose = .ok d := by
  intro pose c x y
  have hc : (⟨3 / 5, 0, 0, 4 / 5⟩ : Quaternion ℝ).IsRotation :=
    .of_coefficients (by norm_num)
  have hx : x.Oriented := Quaternion.IsRotation.of_coefficients (by norm_num)
  have hy : y.Oriented := Quaternion.IsRotation.of_coefficients (by norm_num)
  have hconfined : c.Confined := CartesianPose.confined_ofParts "base" _ _ "world" _
  have hplaced : c.Placed := ⟨rfl, hc⟩
  have hkind : CartesianKind.pose ≠ .screw .wrench := by decide
  obtain ⟨x', y', d, hcx, hcy, -, hd, hd'⟩ := composition_preserves_distances hkind hplaced
    hconfined (x := x) (y := y) rfl rfl hx hy rfl rfl ⟨1⟩ ⟨2⟩
  exact ⟨hplaced, hconfined, hx, hy, x', y', d, hcx, hcy, hd, hd'⟩

end Kinematics
