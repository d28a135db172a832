import Kinematics.Proofs.Cartesian.Groupoid

/-!
# Poses as rigid motions

A filled pose moves points as the isometry of its position and orientation does: it keeps their
distances, a composition moves them first by the one pose and then by the other, and the inverse
moves them back.
-/

namespace Kinematics

namespace Isometry
variable {α : Type} [Scalar α]

/-- The image of a point. -/
def apply (m : Isometry α) (v : Vector3 α) : Vector3 α := m.rotation.rotate v + m.translation

/-- The motion `n` followed by the motion `m`. -/
instance : Mul (Isometry α) :=
  ⟨fun m n => ⟨m.translation + m.rotation.rotate n.translation, m.rotation * n.rotation⟩⟩

/-- The motion back. -/
def inverse (m : Isometry α) : Isometry α :=
  ⟨m.rotation.conjugate.rotate (-m.translation), m.rotation.conjugate⟩

/-- Equal but for the sign of the quaternion. -/
structure SameMotion (m n : Isometry ℝ) : Prop where
  translation : m.translation = n.translation
  rotation : m.rotation.SameRotation n.rotation

section Laws
variable {m n : Isometry ℝ}

theorem SameMotion.apply_eq (h : m.SameMotion n) (v : Vector3 ℝ) : m.apply v = n.apply v := by
  rw [apply, apply, h.rotation.rotate_eq, h.translation]

theorem mul_apply (hm : m.rotation.IsRotation) (hn : n.rotation.IsRotation) (v : Vector3 ℝ) :
    (m * n).apply v = m.apply (n.apply v) := by
  change (m.rotation * n.rotation).rotate v + (m.translation + m.rotation.rotate n.translation) = _
  rw [apply, apply, Quaternion.mul_rotate hm hn, Quaternion.rotate_add]
  abel

theorem inverse_apply_apply (hm : m.rotation.IsRotation) (v : Vector3 ℝ) :
    m.inverse.apply (m.apply v) = v := by
  rw [apply, apply, inverse, ← Quaternion.rotate_add, add_neg_cancel_right,
    Quaternion.conjugate_rotate_rotate hm]

theorem norm_apply_sub_apply (hm : m.rotation.IsRotation) (u v : Vector3 ℝ) :
    (m.apply u - m.apply v).norm = (u - v).norm := by
  rw [apply, apply, add_sub_add_right_eq_sub, ← Quaternion.rotate_sub, Quaternion.norm_rotate hm]

end Laws
end Isometry

namespace CartesianPose

section Outcomes
variable {α : Type} {p : CartesianPose α}

def isometry (p : CartesianPose α) : Isometry α :=
  ⟨p.general.values.position, p.general.values.orientation⟩

theorem toIsometry_eq_ok (hp : p.general.empty = false) : p.toIsometry = .ok p.isometry := by
  rw [toIsometry, State.assertFilled_eq_ok hp]
  rfl

variable [Scalar α]

theorem transform_eq_ok (hp : p.general.empty = false) (v : Vector3 α) :
    p.transform v = .ok (p.isometry.apply v) := by
  rw [transform, State.assertFilled_eq_ok hp]
  rfl

theorem isometry_inverted (p : CartesianPose α) : isometry p.inverted = p.isometry.inverse := rfl

end Outcomes

section Composed
variable {a b : CartesianPose ℝ}

theorem isometry_composed (ha : a.Placed) (hb : b.Placed) (now : Instant) :
    (isometry (a.composed b now)).SameMotion (a.isometry * b.isometry) :=
  ⟨rfl, CartesianValues.orientation_compose ha.rotation hb.rotation⟩

theorem apply_composed (ha : a.Placed) (hb : b.Placed) (now : Instant) (v : Vector3 ℝ) :
    (isometry (a.composed b now)).apply v = a.isometry.apply (b.isometry.apply v) := by
  rw [(isometry_composed ha hb now).apply_eq, Isometry.mul_apply ha.rotation hb.rotation]

theorem position_composed (a b : CartesianPose ℝ) (now : Instant) :
    (a.composed b now).general.values.position = a.isometry.apply b.general.values.position := by
  change a.general.values.position + a.general.values.orientation.rotate _ = _
  rw [add_comm]
  rfl

end Composed
end CartesianPose

open CartesianPose in
/-- Poses move points rigidly, and whichever way a pose is applied to a point leads to the same
place: as a map of points, by composition with a pose at the point, or as an isometry. -/
theorem poses_move_points_rigidly :
    (∀ a b : CartesianPose ℝ, a.Placed → b.Placed → a.general.name = b.general.frame →
      ∀ now : Instant,
        (∀ v : Vector3 ℝ, ∃ w, (do transform (← a.compose b now) v) = .ok w ∧
          (do a.transform (← b.transform v)) = .ok w) ∧
        ∃ k m n, (do toIsometry (← a.compose b now)) = .ok k ∧ a.toIsometry = .ok m ∧
          b.toIsometry = .ok n ∧ k.SameMotion (m * n)) ∧
    ∀ a : CartesianPose ℝ, a.Placed →
      (∀ v : Vector3 ℝ, (do transform (← a.inverse) (← a.transform v)) = .ok v) ∧
      (∀ u v : Vector3 ℝ, ∃ u' v', a.transform u = .ok u' ∧ a.transform v = .ok v' ∧
        (u' - v').norm = (u - v).norm) ∧
      (∀ (name : String) (v : Vector3 ℝ) (t₁ t₂ : Instant), ∃ r w,
        a.compose (ofPosition name v a.general.name t₁) t₂ = .ok r ∧ a.transform v = .ok w ∧
        r.general.values.position = w) ∧
      ∀ (name frame : String) (now : Instant), ∃ m, a.toIsometry = .ok m ∧
        (ofIsometry name m frame now).general.values.position = a.general.values.position ∧
        (ofIsometry name m frame now).general.values.orientation =
          a.general.values.orientation := by
  refine ⟨fun a b ha hb hab now => ⟨fun v => ?_, ?_⟩, fun a ha => ⟨fun v => ?_, fun u v => ?_,
    fun name v t₁ t₂ => ?_, fun name frame now => ?_⟩⟩
  · refine ⟨a.isometry.apply (b.isometry.apply v), ?_, ?_⟩
    · rw [compose_eq_ok ha.filled hb.filled hab, ← apply_composed ha hb now]
      exact transform_eq_ok (filled_composed a b now) v
    · rw [transform_eq_ok hb.filled]
      exact transform_eq_ok ha.filled _
  · refine ⟨isometry (a.composed b now), a.isometry, b.isometry, ?_, toIsometry_eq_ok ha.filled,
      toIsometry_eq_ok hb.filled, isometry_composed ha hb now⟩
    rw [compose_eq_ok ha.filled hb.filled hab]
    exact toIsometry_eq_ok (filled_composed a b now)
  · rw [CartesianProjection.inverse_eq_ok ha.filled, transform_eq_ok ha.filled]
    refine (transform_eq_ok ha.inverted.filled _).trans ?_
    rw [isometry_inverted, Isometry.inverse_apply_apply ha.rotation]
  · exact ⟨_, _, transform_eq_ok ha.filled u, transform_eq_ok ha.filled v,
      Isometry.norm_apply_sub_apply ha.rotation u v⟩
  · exact ⟨_, _, compose_eq_ok ha.filled rfl rfl t₂, transform_eq_ok ha.filled v,
      position_composed a (ofPosition name v a.general.name t₁) t₂⟩
  · exact ⟨a.isometry, toIsometry_eq_ok ha.filled, rfl, rfl⟩

open CartesianPose in
/-- Two links of a chain, each turned against the one before. -/
theorem poses_move_points_rigidly_turned :
    let link (name frame : String) : CartesianPose ℝ :=
      .ofParts name ⟨1, 0, 0⟩ ⟨3 / 5, 0, 0, 4 / 5⟩ frame ⟨0⟩
    let a := link "base" "world"
    let b := link "arm" "base"
    a.Placed ∧ b.Placed ∧ a.general.name = b.general.frame ∧
      (∃ w, (do transform (← a.compose b ⟨1⟩) ⟨0, 1, 0⟩) = .ok w ∧
        (do a.transform (← b.transform ⟨0, 1, 0⟩)) = .ok w) ∧
      (∃ k m n, (do toIsometry (← a.compose b ⟨1⟩)) = .ok k ∧ a.toIsometry = .ok m ∧
        b.toIsometry = .ok n ∧ k.SameMotion (m * n)) ∧
      (do transform (← a.inverse) (← a.transform ⟨0, 1, 0⟩)) = .ok ⟨0, 1, 0⟩ ∧
      ∃ r w, a.compose (ofPosition "tip" ⟨0, 1, 0⟩ "base" ⟨1⟩) ⟨2⟩ = .ok r ∧
        a.transform ⟨0, 1, 0⟩ = .ok w ∧ r.general.values.position = w := by
  intro link a b
  have hrotation : (⟨3 / 5, 0, 0, 4 / 5⟩ : Quaternion ℝ).IsRotation :=
    .of_coefficients (by norm_num)
  have hplaced (name frame : String) : (link name frame).Placed := ⟨rfl, hrotation⟩
  have ha : a.Placed := hplaced "base" "world"
  have hb : b.Placed := hplaced "arm" "base"
  obtain ⟨hpairs, hposes⟩ := poses_move_points_rigidly
  obtain ⟨hpoints, hproduct⟩ := hpairs a b ha hb rfl ⟨1⟩
  obtain ⟨hback, -, htip, -⟩ := hposes a ha
  exact ⟨ha, hb, rfl, hpoints ⟨0, 1, 0⟩, hproduct, hback ⟨0, 1, 0⟩,
    htip "tip" ⟨0, 1, 0⟩ ⟨1⟩ ⟨2⟩⟩

end Kinematics
