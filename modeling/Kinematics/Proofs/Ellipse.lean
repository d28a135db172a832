import Kinematics.Proofs.Cartesian.Groupoid
import Kinematics.Proofs.Conic
import Kinematics.Ellipsoid

/-!
# The contour of an ellipse

The ellipse made from an equation has the solutions of the equation as its contour, and its samples
lie on it.
-/

namespace Kinematics
namespace Ellipsoid

section Samples
variable {α : Type} [Scalar α]

/-- The pose of the principal axes in the center frame. -/
def turn (e : Ellipsoid α) (now : Instant) : CartesianPose α :=
  .ofParts (e.center.general.name ++ "_rotated") 0 (.aboutAxis ⟨0, 0, 1⟩ e.angle)
    e.center.general.name now

/-- The sample `i` of `count`: the point on the axes, turned in the plane and placed at the
center. -/
def sample (e : Ellipsoid α) (count : Nat) (now : Instant) (i : Nat) : CartesianPose α :=
  let θ : α := Scalar.two * Scalar.pi * (i : α) / (count : α)
  let point := CartesianPose.ofPosition (e.name ++ "_point" ++ toString i)
    ⟨e.axisX * Scalar.cos θ, e.axisY * Scalar.sin θ, 0⟩ (e.turn now).general.name now
  CartesianPose.composed (e.center.composed (e.turn now) now) point now

variable {e : Ellipsoid α}

theorem rotation_eq_ok (hfilled : e.empty = false) (now : Instant) :
    e.rotation now = .ok (e.turn now) := by
  rw [rotation, State.assertFilled_eq_ok hfilled]
  rfl

/-- The frames of center, turn and points match by their making. -/
theorem samples_eq_ok (hfilled : e.empty = false) (hcenter : e.center.general.empty = false)
    (count : Nat) (now : Instant) :
    e.samples count now = .ok ((List.range count).map (e.sample count now)) := by
  have hturned : e.center.compose (e.turn now) now = .ok (e.center.composed (e.turn now) now) :=
    CartesianPose.compose_eq_ok hcenter rfl rfl now
  have hpoint (i : Nat) : CartesianPose.compose (e.center.composed (e.turn now) now)
      (CartesianPose.ofPosition (e.name ++ "_point" ++ toString i)
        ⟨e.axisX * Scalar.cos (Scalar.two * Scalar.pi * (i : α) / (count : α)),
          e.axisY * Scalar.sin (Scalar.two * Scalar.pi * (i : α) / (count : α)), 0⟩
        (e.turn now).general.name now) now = .ok (e.sample count now i) :=
    CartesianPose.compose_eq_ok (CartesianPose.filled_composed _ _ now) rfl rfl now
  simp only [samples, rotation_eq_ok hfilled, hturned, hpoint, bind, Except.bind]
  exact List.mapM_pure

end Samples

/-- A point of the contour, seen from the center: the point of the parameter `s` on the ellipse
along the x and the y axis, turned about the z axis. -/
noncomputable def offset (e : Ellipsoid ℝ) (s : ℝ) : Vector3 ℝ :=
  ⟨Real.cos e.angle * (e.axisX * Real.cos s) - Real.sin e.angle * (e.axisY * Real.sin s),
    Real.sin e.angle * (e.axisX * Real.cos s) + Real.cos e.angle * (e.axisY * Real.sin s), 0⟩

/-- The contour of an ellipse in the plane of its reference frame. -/
def contour (e : Ellipsoid ℝ) : Set (Vector3 ℝ) :=
  Set.range fun s => e.centerPosition + e.offset s

theorem isRotation_turn (e : Ellipsoid ℝ) (now : Instant) :
    (e.turn now).general.values.orientation.IsRotation :=
  Quaternion.isRotation_aboutAxis (by norm_num [Vector3.dot]) e.angle

theorem position_sample {e : Ellipsoid ℝ} (hcenter : e.centerOrientation.IsRotation) (count : Nat)
    (now : Instant) (i : Nat) :
    (e.sample count now i).general.values.position =
      e.centerPosition + e.centerOrientation.rotate (e.offset (2 * Real.pi * i / count)) := by
  have hturn := e.isRotation_turn now
  have hturned := CartesianPose.placement_composed e.center (e.turn now) now
  have horigin : (e.center.composed (e.turn now) now).general.values.position =
      e.centerPosition := by
    rw [hturned.position, CartesianValues.position_compose]
    change _ + Quaternion.rotate _ 0 = _
    rw [Quaternion.rotate_zero, add_zero]
    rfl
  rw [sample, (CartesianPose.placement_composed _ _ now).position, CartesianValues.position_compose,
    horigin, hturned.orientation.rotate_eq, CartesianValues.rotate_compose hcenter hturn]
  refine congrArg (fun v => e.centerPosition + e.centerOrientation.rotate v) ?_
  refine (Quaternion.rotate_aboutAxis_z e.angle _).trans ?_
  simp only [Scalar.two_eq]
  rfl

end Ellipsoid

namespace Conic
variable {k : Conic} {name frame : String} {now : Instant}

/-- The ellipse about the center of the conic and along its principal axes. -/
noncomputable def ellipse (k : Conic) (name frame : String) (now : Instant) : Ellipsoid ℝ :=
  (((Ellipsoid.new name frame now).setCenterPosition ⟨k.centerX, k.centerY, 0⟩).setAxes
    k.axisX k.axisY).setAngle k.angle

theorem ofEquation_coefficients (k : Conic) (name frame : String) (now : Instant) :
    Ellipsoid.ofEquation name k.coefficients frame now =
      if 0 ≤ k.discriminant then .error (.notAnEllipse k.discriminant)
      else if 0 < k.axisX ∧ 0 < k.axisY then .ok (k.ellipse name frame now)
      else .error .degenerateEllipse := by
  have hfinite (x : ℝ) : Scalar.isFinite x = true := by
    rw [Scalar.isFinite, sub_self]
    exact decide_eq_true rfl
  have hangle : (if !(k.b == 0) then Scalar.atan2 (k.c - k.a - k.spread) k.b
      else if k.c < k.a then Scalar.pi / 2 else 0) = k.angle := by
    by_cases hb : k.b = 0
    · rw [angle, if_neg (not_not.mpr hb), if_neg (by simp [hb])]
      rfl
    · rw [angle, if_pos hb, if_pos (by simp [hb])]
      rfl
  simp only [Ellipsoid.ofEquation, coefficients, hfinite, Scalar.two_eq, Scalar.sqrt_eq]
  by_cases hdiscriminant : 0 ≤ k.discriminant
  · rw [if_pos hdiscriminant]
    exact if_pos hdiscriminant
  · rw [if_neg hdiscriminant]
    refine (if_neg hdiscriminant).trans ?_
    by_cases haxes : 0 < k.axisX ∧ 0 < k.axisY
    · have hcheck : ¬(!(true && true && decide (0 < k.axisX) && decide (0 < k.axisY))) = true := by
        simp [haxes]
      rw [if_pos haxes, ellipse, ← hangle]
      exact if_neg hcheck
    · have hcheck : (!(true && true && decide (0 < k.axisX) && decide (0 < k.axisY))) = true := by
        simpa [not_and_or, -not_and] using haxes
      rw [if_neg haxes]
      exact if_pos hcheck

theorem ofEquation_eq_ok_iff {e : Ellipsoid ℝ} :
    Ellipsoid.ofEquation name k.coefficients frame now = .ok e ↔
      k.Elliptic ∧ e = k.ellipse name frame now := by
  rw [ofEquation_coefficients]
  by_cases hdiscriminant : 0 ≤ k.discriminant
  · rw [if_pos hdiscriminant]
    exact ⟨nofun, fun h => absurd h.1.discriminant_neg hdiscriminant.not_gt⟩
  · rw [if_neg hdiscriminant, elliptic_iff (not_le.mp hdiscriminant)]
    by_cases haxes : 0 < k.axisX ∧ 0 < k.axisY
    · rw [if_pos haxes, Except.ok.injEq, eq_comm]
      exact (and_iff_right haxes).symm
    · rw [if_neg haxes]
      exact ⟨nofun, fun h => absurd h.1 haxes⟩

/-- The points of the plane `z = 0` that solve the equation. -/
def solutions (k : Conic) : Set (Vector3 ℝ) := {p | p.z = 0 ∧ k.value p.x p.y = 0}

theorem Elliptic.contour_ellipse (hk : k.Elliptic) (name frame : String) (now : Instant) :
    (k.ellipse name frame now).contour = k.solutions := by
  obtain ⟨hX, hY⟩ := (elliptic_iff hk.discriminant_neg).mp hk
  have hstandard := hk.value_eq_zero_iff k.principal_angle
  ext p
  constructor
  · rintro ⟨s, rfl⟩
    refine ⟨add_zero 0, (hstandard (k.axisX * Real.cos s) (k.axisY * Real.sin s)).mpr ?_⟩
    rw [mul_div_cancel_left₀ _ hX.ne', mul_div_cancel_left₀ _ hY.ne']
    exact Real.cos_sq_add_sin_sq s
  · rintro ⟨hz, hvalue⟩
    -- the coordinates of the point along the principal axes
    let ξ := Real.cos k.angle * (p.x - k.centerX) + Real.sin k.angle * (p.y - k.centerY)
    let η := Real.cos k.angle * (p.y - k.centerY) - Real.sin k.angle * (p.x - k.centerX)
    have hcircle := Real.cos_sq_add_sin_sq k.angle
    have hx : k.centerX + (Real.cos k.angle * ξ - Real.sin k.angle * η) = p.x := by
      linear_combination (p.x - k.centerX) * hcircle
    have hy : k.centerY + (Real.sin k.angle * ξ + Real.cos k.angle * η) = p.y := by
      linear_combination (p.y - k.centerY) * hcircle
    have hunit : (ξ / k.axisX) ^ 2 + (η / k.axisY) ^ 2 = 1 := by
      rw [← hstandard, hx, hy, hvalue]
    obtain ⟨s, hcos, hsin⟩ := exists_angle hunit
    have hξ : k.axisX * Real.cos s = ξ := by rw [hcos, mul_div_cancel₀ _ hX.ne']
    have hη : k.axisY * Real.sin s = η := by rw [hsin, mul_div_cancel₀ _ hY.ne']
    refine ⟨s, Vector3.ext ?_ ?_ ?_⟩
    · rw [← hx, ← hξ, ← hη]
      rfl
    · rw [← hy, ← hξ, ← hη]
      rfl
    · rw [hz]
      exact add_zero 0

theorem Elliptic.samples_ellipse (hk : k.Elliptic) (name frame : String) (now : Instant)
    (count : Nat) (later : Instant) :
    ∃ poses, (k.ellipse name frame now).samples count later = .ok poses ∧ poses.length = count ∧
      ∀ pose ∈ poses, pose.general.values.position ∈ k.solutions := by
  refine ⟨_, Ellipsoid.samples_eq_ok rfl rfl count later, by simp, ?_⟩
  intro pose hpose
  obtain ⟨i, -, rfl⟩ := List.mem_map.mp hpose
  have hcenter : (k.ellipse name frame now).centerOrientation.IsRotation := .identity
  have hposition := Ellipsoid.position_sample hcenter count later i
  rw [← hk.contour_ellipse name frame now, hposition]
  exact ⟨_, congrArg _ (Quaternion.identity_rotate _).symm⟩

end Conic

/-- The ellipse that an equation is accepted as has exactly the solutions of the equation as its
contour, and all its samples are among them. -/
theorem contour_of_equation (k : Conic) (name frame : String) (now : Instant) :
    ((∃ e, Ellipsoid.ofEquation name k.coefficients frame now = .ok e) ↔ k.Elliptic) ∧
    ∀ e, Ellipsoid.ofEquation name k.coefficients frame now = .ok e →
      e.contour = k.solutions ∧
      ∀ (count : Nat) (later : Instant), ∃ poses, e.samples count later = .ok poses ∧
        poses.length = count ∧ ∀ pose ∈ poses, pose.general.values.position ∈ k.solutions := by
  refine ⟨?_, ?_⟩
  · simp only [Conic.ofEquation_eq_ok_iff, exists_and_left, exists_eq, and_true]
  · intro e he
    obtain ⟨hk, rfl⟩ := Conic.ofEquation_eq_ok_iff.mp he
    exact ⟨hk.contour_ellipse name frame now, hk.samples_ellipse name frame now⟩

/-- A tilted ellipse off the origin whose equation has a form of negative sign. -/
theorem contour_of_equation_tilted :
    let k : Conic := ⟨-5, 6, -5, -2, 14, -5⟩
    ∃ e, Ellipsoid.ofEquation "e" k.coefficients "world" ⟨0⟩ = .ok e ∧ e.contour = k.solutions ∧
      ∃ poses, e.samples 8 ⟨1⟩ = .ok poses ∧ poses.length = 8 ∧
        ∀ pose ∈ poses, pose.general.values.position ∈ k.solutions := by
  intro k
  have hspread : k.spread = 6 := by
    rw [Conic.spread, show (k.a - k.c) * (k.a - k.c) + k.b * k.b = 6 * 6 by norm_num [k]]
    exact Real.sqrt_mul_self (by norm_num)
  have hk : k.Elliptic := by
    constructor <;> norm_num [hspread, k, Conic.discriminant, Conic.determinant]
  obtain ⟨haccepted, hcontour⟩ := contour_of_equation k "e" "world" ⟨0⟩
  obtain ⟨e, he⟩ := haccepted.mpr hk
  obtain ⟨hsolutions, hsamples⟩ := hcontour e he
  exact ⟨e, he, hsolutions, hsamples 8 ⟨1⟩⟩

end Kinematics
