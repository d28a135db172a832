import Kinematics.Proofs.Cartesian.Motion
import Kinematics.Proofs.RateOfChange

/-!
# Composition and rates of change

The velocities and accelerations of a moving frame are consistent when they are the rates of change
that their names promise. The transport terms of a composition are just those that keep them so.
-/

namespace Kinematics

namespace RateOfChange
open CartesianState (composeValues)
variable {τ : Type}

/-- The orientation is a rotation throughout, the linear velocity and acceleration are the first and
the second rate of change of the position, every fixed vector turns with the angular velocity, and
the angular acceleration is the rate of change of the angular velocity. -/
structure Consistent (D : RateOfChange τ) (v : τ → CartesianValues ℝ) : Prop where
  rotation : ∀ t, (v t).orientation.IsRotation
  linearVelocity : D.VectorRate (fun t => (v t).position) fun t => (v t).linearVelocity
  linearAcceleration :
    D.VectorRate (fun t => (v t).linearVelocity) fun t => (v t).linearAcceleration
  angularVelocity : ∀ x, D.VectorRate (fun t => (v t).orientation.rotate x)
    fun t => (v t).angularVelocity.cross ((v t).orientation.rotate x)
  angularAcceleration :
    D.VectorRate (fun t => (v t).angularVelocity) fun t => (v t).angularAcceleration

section Compose
variable {D : RateOfChange τ} {a b : τ → CartesianValues ℝ}

/-- Seen from the reference frame of `a`, a vector that moves in the frame `a`. -/
theorem Consistent.rotate (ha : D.Consistent a) {u u' : τ → Vector3 ℝ}
    (hu : D.VectorRate u u') :
    D.VectorRate (fun t => (a t).orientation.rotate (u t)) fun t =>
      (a t).angularVelocity.cross ((a t).orientation.rotate (u t)) +
        (a t).orientation.rotate (u' t) :=
  .rotate ha.angularVelocity hu

theorem linearVelocity_composeValues (ha : D.Consistent a) (hb : D.Consistent b) :
    D.VectorRate (fun t => (composeValues (a t) (b t)).position)
      fun t => (composeValues (a t) (b t)).linearVelocity := by
  have hrate := ha.linearVelocity.add (ha.rotate hb.linearVelocity)
  refine hrate.congr (fun t => CartesianValues.position_compose _ _) fun t => ?_
  rw [CartesianValues.linearVelocity_compose]
  abel

/-- One half of the Coriolis term comes from the turning of the velocity of `b`, the other from the
transport of its position. -/
theorem linearAcceleration_composeValues (ha : D.Consistent a) (hb : D.Consistent b) :
    D.VectorRate (fun t => (composeValues (a t) (b t)).linearVelocity)
      fun t => (composeValues (a t) (b t)).linearAcceleration := by
  have hposition := ha.rotate hb.linearVelocity
  have hvelocity := ha.rotate hb.linearAcceleration
  have hrate := (ha.linearAcceleration.add hvelocity).add (ha.angularAcceleration.cross hposition)
  refine hrate.congr (fun t => CartesianValues.linearVelocity_compose _ _) fun t => ?_
  rw [CartesianValues.linearAcceleration_compose, Scalar.two_eq, Vector3.scale_two,
    Vector3.cross_add]
  abel

/-- The sign of the composed quaternion may jump from one instant to the next; the rotation for
which it stands does not. -/
theorem angularVelocity_composeValues (ha : D.Consistent a) (hb : D.Consistent b)
    (x : Vector3 ℝ) :
    D.VectorRate (fun t => (composeValues (a t) (b t)).orientation.rotate x) fun t =>
      (composeValues (a t) (b t)).angularVelocity.cross
        ((composeValues (a t) (b t)).orientation.rotate x) := by
  have hturn (t : τ) := CartesianValues.rotate_compose (ha.rotation t) (hb.rotation t) x
  have hrate := ha.rotate (hb.angularVelocity x)
  refine hrate.congr hturn fun t => ?_
  rw [hturn, CartesianValues.angularVelocity_compose, Vector3.add_cross,
    Quaternion.rotate_cross (ha.rotation t)]

theorem angularAcceleration_composeValues (ha : D.Consistent a) (hb : D.Consistent b) :
    D.VectorRate (fun t => (composeValues (a t) (b t)).angularVelocity)
      fun t => (composeValues (a t) (b t)).angularAcceleration := by
  have hrate := ha.angularAcceleration.add (ha.rotate hb.angularAcceleration)
  refine hrate.congr (fun t => CartesianValues.angularVelocity_compose _ _) fun t => ?_
  rw [CartesianValues.angularAcceleration_compose]
  abel

theorem Consistent.compose (ha : D.Consistent a) (hb : D.Consistent b) :
    D.Consistent fun t => composeValues (a t) (b t) where
  rotation t := CartesianValues.isRotation_compose (ha.rotation t) (hb.rotation t)
  linearVelocity := linearVelocity_composeValues ha hb
  linearAcceleration := linearAcceleration_composeValues ha hb
  angularVelocity := angularVelocity_composeValues ha hb
  angularAcceleration := angularAcceleration_composeValues ha hb

end Compose
end RateOfChange

/-- Composition is consistent with every linear rate of change that has the product rule, such as
the derivative in time: the states composed of two consistently moving frames are made at all times,
and they move consistently. -/
theorem composition_moves_consistently {τ : Type} (D : RateOfChange τ)
    (a b : τ → CartesianState ℝ) (now : τ → Instant) (hafilled : ∀ t, (a t).empty = false)
    (hbfilled : ∀ t, (b t).empty = false) (hlink : ∀ t, (a t).name = (b t).frame)
    (ha : D.Consistent fun t => (a t).values) (hb : D.Consistent fun t => (b t).values) :
    ∃ c : τ → CartesianState ℝ, (∀ t, (a t).compose (b t) (now t) = .ok (c t)) ∧
      D.Consistent fun t => (c t).values := by
  let c (t : τ) : CartesianState ℝ := (CartesianState.new (b t).name (a t).frame (now t)).setValues
    (CartesianState.composeValues (a t).values (b t).values)
  refine ⟨c, fun t => ?_, ha.compose hb⟩
  exact CartesianState.compose_eq_ok_iff.mpr ⟨hafilled t, hbfilled t, hlink t, rfl⟩

/-- A frame that circles the origin of its reference frame ever faster and turns as it goes. -/
noncomputable def circling (t : ℝ) : CartesianValues ℝ :=
  let angle := t * t
  let rate := t + t
  let gain : ℝ := 1 + 1
  { CartesianValues.identity with
    position := ⟨Real.cos angle, Real.sin angle, 0⟩
    orientation := .aboutAxis ⟨0, 0, 1⟩ angle
    linearVelocity := ⟨-(rate * Real.sin angle), rate * Real.cos angle, 0⟩
    angularVelocity := ⟨0, 0, rate⟩
    linearAcceleration :=
      ⟨-(gain * Real.sin angle + rate * (Real.cos angle * rate)),
        gain * Real.cos angle - rate * (Real.sin angle * rate), 0⟩
    angularAcceleration := ⟨0, 0, gain⟩ }

theorem consistent_circling : RateOfChange.inTime.Consistent circling := by
  have hangle (t : ℝ) : HasDerivAt (fun t : ℝ => t * t) (t + t) t :=
    ((hasDerivAt_id t).mul (hasDerivAt_id t)).congr_deriv (by simp)
  have hrate (t : ℝ) : HasDerivAt (fun t : ℝ => t + t) (1 + 1) t :=
    (hasDerivAt_id t).add (hasDerivAt_id t)
  have hcos (t : ℝ) := (hangle t).cos
  have hsin (t : ℝ) := (hangle t).sin
  have hrotate (t : ℝ) (x : Vector3 ℝ) : (circling t).orientation.rotate x = _ :=
    Quaternion.rotate_aboutAxis_z (t * t) x
  exact {
    rotation := fun t => Quaternion.isRotation_aboutAxis (by simp [Vector3.dot]) _
    linearVelocity := {
      x := fun t => (hcos t).congr_deriv (by simp only [circling]; ring)
      y := fun t => (hsin t).congr_deriv (by simp only [circling]; ring)
      z := fun t => hasDerivAt_const t 0 }
    linearAcceleration := {
      x := fun t => ((hrate t).mul (hsin t)).neg.congr_deriv (by simp only [circling])
      y := fun t => ((hrate t).mul (hcos t)).congr_deriv (by simp only [circling]; ring)
      z := fun t => hasDerivAt_const t 0 }
    angularVelocity := fun x => by
      simp only [hrotate]
      refine ⟨fun t => ?_, fun t => ?_, fun t => ?_⟩
      · have hx := ((hcos t).mul_const x.x).sub ((hsin t).mul_const x.y)
        exact hx.congr_deriv (by simp only [circling, Vector3.cross]; ring)
      · have hy := ((hsin t).mul_const x.x).add ((hcos t).mul_const x.y)
        exact hy.congr_deriv (by simp only [circling, Vector3.cross]; ring)
      · have hz := hasDerivAt_const t x.z
        exact hz.congr_deriv (by simp only [circling, Vector3.cross]; ring)
    angularAcceleration := {
      x := fun t => hasDerivAt_const t 0
      y := fun t => hasDerivAt_const t 0
      z := fun t => hrate t } }

theorem composition_moves_consistently_circling :
    let link (name frame : String) (t : ℝ) : CartesianState ℝ :=
      (CartesianState.new name frame ⟨0⟩).setValues (circling t)
    ∃ c : ℝ → CartesianState ℝ,
      (∀ t, (link "base" "world" t).compose (link "arm" "base" t) ⟨1⟩ = .ok (c t)) ∧
      (∀ t, HasDerivAt (fun t => (c t).values.position.x) (c t).values.linearVelocity.x t) ∧
      RateOfChange.inTime.Consistent fun t => (c t).values := by
  intro link
  obtain ⟨c, hc, hconsistent⟩ := composition_moves_consistently RateOfChange.inTime
    (link "base" "world") (link "arm" "base") (fun _ => ⟨1⟩) (fun _ => rfl) (fun _ => rfl)
    (fun _ => rfl) consistent_circling consistent_circling
  exact ⟨c, hc, hconsistent.linearVelocity.x, hconsistent⟩

end Kinematics
