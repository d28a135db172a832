import Kinematics.Proofs.Ellipse
import Kinematics.Proofs.Rotation.Unit
import Kinematics.Proofs.Session.Invariant

/-!
# Samples of ellipses in sessions

The center of a shape is always filled, whatever pose it was set to, and the frames of center, turn
and points are matched by their making. So every filled ellipse can be sampled.
-/

namespace Kinematics

section Centered
variable {α : Type}

/-- The center of a shape is filled; nothing is asked of other values. -/
def Value.Centered : Value α → Prop
  | .shape s => s.center.general.empty = false
  | .ellipsoid e => e.center.general.empty = false
  | _ => True

/-- Parameters store no shapes. -/
theorem Value.centered_of_state? {v : ParameterValue α} {u : Value α} (hu : u ∈ v.state?) :
    u.Centered := by
  obtain ⟨type, payload⟩ := v
  cases type <;> cases hu <;> trivial

theorem Shape.setCenter_keeps_filled (pose : CartesianPose α) :
    (setCenter pose).Keeps fun s => s.center.general.empty = false := by
  refine .of_settles fun s _ => ?_
  have hsettles : (setCenter pose).Settles s fun t =>
      pose.general.empty = false ∧ t.center = pose := .assertFilled_bind (.modify rfl)
  refine hsettles.mono ?_
  rintro t ⟨hpose, hcenter⟩
  rw [hcenter]
  exact hpose

variable [Scalar α] {c : Conduct α} {held : List (Value α)}

theorem Value.centered_of_makesShape (hheld : ∀ v ∈ held, v.Centered) {s : Shape α}
    (h : MakesShape c held s) : s.center.general.empty = false := by
  cases h with
  | new name frame now => rfl
  | ofEllipsoid he => exact hheld _ he
  | @change s change hs hoperands hallowed =>
    have hcenter : s.center.general.empty = false := hheld _ hs
    cases change with
    | setName name => exact hcenter
    | setCenter pose => exact Shape.setCenter_keeps_filled pose s hcenter
    | setCenterPosition | setCenterOrientation => rfl

theorem Value.centered_of_makesEllipsoid (hheld : ∀ v ∈ held, v.Centered) {e : Ellipsoid α}
    (h : MakesEllipsoid c held e) : e.center.general.empty = false := by
  cases h with
  | new name frame now => rfl
  | unit name frame now => rfl
  | ofEquation name coefficients frame now h =>
    obtain ⟨position, hcenter⟩ := Property.center_of_ofEquation h
    rw [hcenter]
    rfl
  | @change e change he hoperands hallowed =>
    have hcenter : e.center.general.empty = false := hheld _ he
    cases change with
    | setCenter pose =>
      have hkeeps : (Ellipsoid.setCenter pose).Keeps fun e => e.center.general.empty = false :=
        .within (Shape.setCenter_keeps_filled pose) (fun _ he => he) fun _ _ hs _ => hs
      exact hkeeps e hcenter
    | setCenterPosition | setCenterOrientation => rfl
    | setAxes x y => exact hcenter
    | setAngle angle => exact hcenter
    | setData data =>
      have hkeeps : (Ellipsoid.setData data).Keeps fun e => e.center.general.empty = false := by
        unfold Ellipsoid.setData
        split
        · exact .modify fun _ _ => rfl
        · exact .throw _
      exact hkeeps e hcenter

theorem Step.centered (hheld : ∀ v ∈ held, v.Centered) {u : Value α} (h : Step c held u) :
    u.Centered := by
  cases h with
  | shape h => exact Value.centered_of_makesShape hheld h
  | ellipsoid h => exact Value.centered_of_makesEllipsoid hheld h
  | value _ _ hu | get _ _ hu | lookup _ _ hu => exact Value.centered_of_state? hu
  | cartesian | projection | joint | jointProjection | parameter | map | center | sample => trivial

theorem Session.centered (h : Session c held) : ∀ v ∈ held, v.Centered :=
  h.forall_of_step fun hheld hstep => hstep.centered hheld

end Centered

namespace Ellipsoid

/-- What is held of an ellipse in a session can be sampled once it is filled. -/
theorem samples_of_held {α : Type} [Scalar α] {c : Conduct α} {held : List (Value α)}
    (h : Session c held) {e : Ellipsoid α} (he : .ellipsoid e ∈ held) (hfilled : e.empty = false)
    (count : Nat) (now : Instant) :
    ∃ poses, e.samples count now = .ok poses ∧ poses.length = count ∧
      ∀ i pose, poses[i]? = some pose → pose = e.sample count now i := by
  refine ⟨_, samples_eq_ok hfilled (h.centered _ he) count now, by simp, ?_⟩
  intro i pose hpose
  rw [List.getElem?_map, Option.map_eq_some_iff] at hpose
  obtain ⟨j, hj, rfl⟩ := hpose
  obtain ⟨hlt, hj⟩ := List.getElem?_eq_some_iff.mp hj
  rw [List.getElem_range] at hj
  rw [hj]

section Turned
variable {e : Ellipsoid ℝ}

/-- A vector along the axes, turned about the z axis of the center. -/
noncomputable def turned (e : Ellipsoid ℝ) (v : Vector3 ℝ) : Vector3 ℝ :=
  ⟨Real.cos e.angle * v.x - Real.sin e.angle * v.y,
    Real.sin e.angle * v.x + Real.cos e.angle * v.y, v.z⟩

/-- A sample is turned as the center is and, before that, as the axes are. -/
theorem rotate_sample (hcenter : e.centerOrientation.IsRotation) (count : Nat) (now : Instant)
    (i : Nat) :
    (e.sample count now i).general.values.orientation.IsRotation ∧
    ∀ v, (e.sample count now i).general.values.orientation.rotate v =
      e.centerOrientation.rotate (e.turned v) := by
  have hturn := e.isRotation_turn now
  have hmoved : (e.center.composed (e.turn now) now).general.values.orientation.IsRotation :=
    CartesianValues.isRotation_compose hcenter hturn
  refine ⟨CartesianValues.isRotation_compose hmoved .identity, ?_⟩
  intro v
  rw [sample, (CartesianPose.placement_composed _ _ now).orientation.rotate_eq,
    CartesianValues.rotate_compose hmoved .identity,
    (CartesianPose.placement_composed _ _ now).orientation.rotate_eq,
    CartesianValues.rotate_compose hcenter hturn]
  have hpoint : (Quaternion.identity : Quaternion ℝ).rotate v = v := Quaternion.identity_rotate v
  exact congrArg e.centerOrientation.rotate
    ((Quaternion.rotate_aboutAxis_z e.angle _).trans (congrArg e.turned hpoint))

end Turned
end Ellipsoid

/-- Every filled ellipse of a session can be sampled: the samples are filled poses in order, named
after the ellipse and expressed in the frame of its center. They lie on the contour and are turned as
the axes are. -/
theorem held_ellipses_can_be_sampled :
    (∀ {α : Type} [Scalar α] {c : Conduct α} {held : List (Value α)}, Session c held →
      ∀ e : Ellipsoid α, .ellipsoid e ∈ held → e.empty = false →
      ∀ (count : Nat) (now : Instant), ∃ poses, e.samples count now = .ok poses ∧
        poses.length = count ∧ ∀ (i : Nat) (pose : CartesianPose α), poses[i]? = some pose →
          pose.general.empty = false ∧ pose.general.name = e.name ++ "_point" ++ toString i ∧
          pose.general.frame = e.frame) ∧
    ∀ {c : Conduct ℝ} {held : List (Value ℝ)}, Session c held →
      ∀ e : Ellipsoid ℝ, .ellipsoid e ∈ held → e.empty = false → e.centerOrientation.norm = 1 →
      ∀ (count : Nat) (now : Instant), ∃ poses, e.samples count now = .ok poses ∧
        poses.length = count ∧ ∀ (i : Nat) (pose : CartesianPose ℝ), poses[i]? = some pose →
          let s := 2 * Real.pi * i / count
          pose.general.values.position = e.centerPosition +
            e.centerOrientation.rotate (e.turned ⟨e.axisX * Real.cos s, e.axisY * Real.sin s, 0⟩) ∧
          pose.general.values.orientation.norm = 1 ∧
          ∀ v, pose.general.values.orientation.rotate v =
            e.centerOrientation.rotate (e.turned v) := by
  constructor
  · intro α _ c held h e he hfilled count now
    obtain ⟨poses, hposes, hlength, hsamples⟩ := Ellipsoid.samples_of_held h he hfilled count now
    refine ⟨poses, hposes, hlength, ?_⟩
    intro i pose hpose
    rw [hsamples i pose hpose]
    exact ⟨rfl, rfl, rfl⟩
  · intro c held h e he hfilled hunit count now
    obtain ⟨poses, hposes, hlength, hsamples⟩ := Ellipsoid.samples_of_held h he hfilled count now
    refine ⟨poses, hposes, hlength, ?_⟩
    intro i pose hpose s
    have hcenter := Quaternion.isRotation_iff_norm.mpr hunit
    obtain ⟨hrotation, hrotate⟩ := Ellipsoid.rotate_sample hcenter count now i
    rw [hsamples i pose hpose]
    exact ⟨Ellipsoid.position_sample hcenter count now i,
      Quaternion.isRotation_iff_norm.mp hrotation, hrotate⟩

/-- A ring is centered on a pose of another name, in another frame, half a turn about the x axis. -/
theorem held_ellipses_can_be_sampled_turned :
    let anchor : CartesianPose ℝ := .ofParts "anchor" ⟨1, 2, 3⟩ ⟨0, 1, 0, 0⟩ "room" ⟨0⟩
    let ring : Ellipsoid ℝ := .new "ring" "world" ⟨1⟩
    let moved := ((Ellipsoid.setCenter anchor).applyTo ring).2
    ∃ held, Session .free held ∧ .ellipsoid moved ∈ held ∧ moved.empty = false ∧
      moved.centerOrientation.norm = 1 ∧
      ∃ poses, moved.samples 3 ⟨2⟩ = .ok poses ∧ poses.length = 3 ∧
        ∀ (i : Nat) (pose : CartesianPose ℝ), poses[i]? = some pose →
          let s := 2 * Real.pi * i / (3 : ℕ)
          pose.general.name = "ring" ++ "_point" ++ toString i ∧ pose.general.frame = "room" ∧
          pose.general.values.position = ⟨1 + Real.cos s, 2 - Real.sin s, 3⟩ := by
  intro anchor ring moved
  have hsucceeds : (Ellipsoid.setCenter anchor).applyTo ring =
      (.ok (), { ring with center := anchor, empty := false }) := by
    have hanchor : (anchor.general.assertFilled : Except (StateError ℝ) Unit) = .ok () :=
      State.assertFilled_eq_ok rfl
    simp only [Ellipsoid.setCenter, Edit.applyTo_within, Shape.setCenter, Edit.applyTo_bind,
      Edit.applyTo_require, hanchor, Edit.applyTo_modify]
  have hmoved : moved = { ring with center := anchor, empty := false } :=
    congrArg Prod.snd hsucceeds
  have hsession : Session .free [.ellipsoid moved, .ellipsoid ring, .projection anchor] :=
    Session.start
      |>.step (.projection (.ofParts "anchor" ⟨1, 2, 3⟩ ⟨0, 1, 0, 0⟩ "room" ⟨0⟩ trivial))
      |>.step (.ellipsoid (.new "ring" "world" ⟨1⟩))
      |>.step (.ellipsoid (.change (.setCenter anchor) List.mem_cons_self
        (List.forall_mem_singleton.mpr (List.mem_cons_of_mem _ List.mem_cons_self)) trivial))
  have hfilled : moved.empty = false := by rw [hmoved]
  have hunit : moved.centerOrientation.norm = 1 := by
    rw [hmoved]
    exact Quaternion.isRotation_iff_norm.mp (.of_coefficients (by norm_num))
  obtain ⟨hsampled, hplaced⟩ := held_ellipses_can_be_sampled
  obtain ⟨poses, hposes, hlength, hnames⟩ :=
    hsampled hsession moved List.mem_cons_self hfilled 3 ⟨2⟩
  obtain ⟨poses', hposes', -, hpositions⟩ :=
    hplaced hsession moved List.mem_cons_self hfilled hunit 3 ⟨2⟩
  obtain rfl : poses = poses' := Except.ok.inj (hposes.symm.trans hposes')
  refine ⟨_, hsession, List.mem_cons_self, hfilled, hunit, poses, hposes, hlength, ?_⟩
  intro i pose hpose s
  obtain ⟨-, hname, hframe⟩ := hnames i pose hpose
  obtain ⟨hposition, -, -⟩ := hpositions i pose hpose
  have hturned : moved.turned ⟨moved.axisX * Real.cos s, moved.axisY * Real.sin s, 0⟩ =
      ⟨Real.cos s, Real.sin s, 0⟩ := by
    rw [hmoved]
    simp [Ellipsoid.turned, ring, Ellipsoid.new]
  have hhalf : (⟨0, 1, 0, 0⟩ : Quaternion ℝ).rotate ⟨Real.cos s, Real.sin s, 0⟩ =
      ⟨Real.cos s, -Real.sin s, 0⟩ := by
    ext <;> simp only [Quaternion.rotate, Quaternion.vectorPart, Vector3.cross, Vector3.scale,
      Vector3.add_x, Vector3.add_y, Vector3.add_z, Scalar.two_eq] <;> ring
  refine ⟨?_, ?_, ?_⟩
  · rw [hname, hmoved]
    rfl
  · rw [hframe, hmoved]
    rfl
  · rw [hposition, hturned, hmoved]
    refine (congrArg (⟨1, 2, 3⟩ + ·) hhalf).trans ?_
    ext
    · rfl
    · exact (sub_eq_add_neg 2 (Real.sin s)).symm
    · exact add_zero 3

end Kinematics
