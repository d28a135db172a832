import Kinematics.Proofs.Cartesian.Groupoid

/-!
# The inverse of a moving frame

The inverse turns each vector back and negates it on its own. Composition adds the transport terms
of the moving frame, to which the inverse has no counterpart: a frame composed with its inverse is
at the origin and carries no load, and it moves with just these terms.
-/

namespace Kinematics

namespace CartesianValues
open CartesianState (composeValues inverseValues)

/-- The acceleration terms of a moving frame for what is at its own position and velocity: the
Euler, the Coriolis and the centripetal term. -/
def transport {α : Type} [Scalar α] (v : CartesianValues α) : Vector3 α :=
  v.angularAcceleration.cross v.position +
    (v.angularVelocity.cross v.linearVelocity).scale Scalar.two +
    v.angularVelocity.cross (v.angularVelocity.cross v.position)

section ComposeInverse
variable {a : CartesianValues ℝ}

/-- Turned into the reference frame, a vector of the inverse is the negated vector. -/
theorem rotate_vector_inverse (ha : a.orientation.IsRotation) (field : VectorField) :
    a.orientation.rotate ((inverseValues a).vector field) = -a.vector field := by
  rw [vector_inverse, Quaternion.rotate_conjugate_rotate ha]

theorem linearVelocity_compose_inverse (ha : a.orientation.IsRotation) :
    (composeValues a (inverseValues a)).linearVelocity =
      -a.angularVelocity.cross a.position := by
  have hposition : a.orientation.rotate (inverseValues a).position = -a.position :=
    rotate_vector_inverse ha .position
  have hvelocity : a.orientation.rotate (inverseValues a).linearVelocity = -a.linearVelocity :=
    rotate_vector_inverse ha .linearVelocity
  rw [linearVelocity_compose, hposition, hvelocity, add_neg_cancel, zero_add, Vector3.cross_neg]

theorem angularVelocity_compose_inverse (ha : a.orientation.IsRotation) :
    (composeValues a (inverseValues a)).angularVelocity = 0 := by
  have hangular : a.orientation.rotate (inverseValues a).angularVelocity = -a.angularVelocity :=
    rotate_vector_inverse ha .angularVelocity
  rw [angularVelocity_compose, hangular, add_neg_cancel]

theorem linearAcceleration_compose_inverse (ha : a.orientation.IsRotation) :
    (composeValues a (inverseValues a)).linearAcceleration = -a.transport := by
  have hposition : a.orientation.rotate (inverseValues a).position = -a.position :=
    rotate_vector_inverse ha .position
  have hvelocity : a.orientation.rotate (inverseValues a).linearVelocity = -a.linearVelocity :=
    rotate_vector_inverse ha .linearVelocity
  have hacceleration :
      a.orientation.rotate (inverseValues a).linearAcceleration = -a.linearAcceleration :=
    rotate_vector_inverse ha .linearAcceleration
  rw [linearAcceleration_compose, hposition, hvelocity, hacceleration, add_neg_cancel, zero_add,
    transport, Scalar.two_eq]
  simp only [Vector3.cross_neg, Vector3.scale_two]
  abel

theorem angularAcceleration_compose_inverse (ha : a.orientation.IsRotation) :
    (composeValues a (inverseValues a)).angularAcceleration = 0 := by
  have hangular : a.orientation.rotate (inverseValues a).angularVelocity = -a.angularVelocity :=
    rotate_vector_inverse ha .angularVelocity
  have hacceleration :
      a.orientation.rotate (inverseValues a).angularAcceleration = -a.angularAcceleration :=
    rotate_vector_inverse ha .angularAcceleration
  rw [angularAcceleration_compose, hangular, hacceleration, add_neg_cancel, zero_add,
    Vector3.cross_neg, Vector3.cross_self, neg_zero]

theorem force_compose_inverse (ha : a.orientation.IsRotation) :
    (composeValues a (inverseValues a)).force = 0 := by
  have hforce : a.orientation.rotate (inverseValues a).force = -a.force :=
    rotate_vector_inverse ha .force
  rw [force_compose, hforce, add_neg_cancel]

/-- The two forces act at the origin, where they have no arm. -/
theorem torque_compose_inverse (ha : a.orientation.IsRotation) :
    (composeValues a (inverseValues a)).torque = 0 := by
  have htorque : a.orientation.rotate (inverseValues a).torque = -a.torque :=
    rotate_vector_inverse ha .torque
  have hposition : (composeValues a (inverseValues a)).position = 0 :=
    (compose_inverse ha).position
  rw [torque_compose, hposition, htorque, add_neg_cancel, Vector3.zero_cross, add_zero]

theorem compose_inverse_sameMotion_iff (ha : a.orientation.IsRotation) :
    (composeValues a (inverseValues a)).SameMotion identity ↔
      a.angularVelocity.cross a.position = 0 ∧ a.transport = 0 := by
  constructor
  · intro h
    have hvelocity := h.linearVelocity
    have hacceleration := h.linearAcceleration
    rw [linearVelocity_compose_inverse ha, linearVelocity_identity, neg_eq_zero] at hvelocity
    rw [linearAcceleration_compose_inverse ha, linearAcceleration_identity,
      neg_eq_zero] at hacceleration
    exact ⟨hvelocity, hacceleration⟩
  · rintro ⟨hvelocity, hacceleration⟩
    exact {
      toSamePlacement := compose_inverse ha
      linearVelocity := by
        rw [linearVelocity_compose_inverse ha, hvelocity, neg_zero, linearVelocity_identity]
      angularVelocity := angularVelocity_compose_inverse ha
      linearAcceleration := by
        rw [linearAcceleration_compose_inverse ha, hacceleration, neg_zero,
          linearAcceleration_identity]
      angularAcceleration := angularAcceleration_compose_inverse ha
      force := force_compose_inverse ha }

end ComposeInverse
end CartesianValues

/-- A frame that circles the origin of its reference frame moves when it is composed with its
inverse. -/
theorem compose_inverse_moves :
    let circling : CartesianState ℝ :=
      ((CartesianState.identity "arm" "base" ⟨0⟩).setVector .position ⟨1, 0, 0⟩).setVector
        .angularVelocity ⟨0, 0, 1⟩
    circling.empty = false ∧ circling.values.orientation.IsRotation ∧
      ∃ i x, circling.inverse = .ok i ∧ circling.compose i ⟨1⟩ = .ok x ∧
        x.values.linearVelocity = ⟨0, -1, 0⟩ ∧ x.values.linearVelocity ≠ 0 ∧
        x.values.linearAcceleration = ⟨1, 0, 0⟩ ∧ x.values.linearAcceleration ≠ 0 := by
  intro circling
  have hrotation : circling.values.orientation.IsRotation := .identity
  have hvelocity : (CartesianState.composeValues circling.values
      (CartesianState.inverseValues circling.values)).linearVelocity = ⟨0, -1, 0⟩ := by
    rw [CartesianValues.linearVelocity_compose_inverse hrotation]
    ext <;> simp [circling, CartesianState.setVector, CartesianState.setValues,
      CartesianValues.setVector, CartesianValues.build, CartesianValues.vector, Vector3.cross]
  have hacceleration : (CartesianState.composeValues circling.values
      (CartesianState.inverseValues circling.values)).linearAcceleration = ⟨1, 0, 0⟩ := by
    rw [CartesianValues.linearAcceleration_compose_inverse hrotation]
    ext <;> simp [circling, CartesianState.setVector, CartesianState.setValues,
      CartesianState.identity, CartesianState.new, CartesianState.ofType, CartesianValues.transport,
      CartesianValues.setVector, CartesianValues.build, CartesianValues.vector, Vector3.cross,
      Vector3.scale]
  refine ⟨rfl, hrotation, _, _, CartesianState.inverse_eq_ok rfl,
    CartesianState.compose_eq_ok_iff.mpr ⟨rfl, rfl, rfl, rfl⟩, hvelocity, ?_, hacceleration, ?_⟩
  · exact fun h => by simpa using congrArg Vector3.y (hvelocity.symm.trans h)
  · exact fun h => by simpa using congrArg Vector3.x (hacceleration.symm.trans h)

/-- A frame composed with its inverse is an identity of its reference frame, but for the velocity
and the acceleration that the moving frame transports. -/
theorem motion_of_compose_inverse (a : CartesianState ℝ) (hfilled : a.empty = false)
    (hrotation : a.values.orientation.IsRotation) (now : Instant) :
    ∃ i x, a.inverse = .ok i ∧ a.compose i now = .ok x ∧
      x.name = a.frame ∧ x.frame = a.frame ∧
      x.values.position = 0 ∧ x.values.orientation.SameRotation .identity ∧
      x.values.angularVelocity = 0 ∧ x.values.angularAcceleration = 0 ∧
      x.values.force = 0 ∧ x.values.torque = 0 ∧
      x.values.linearVelocity = -a.values.angularVelocity.cross a.values.position ∧
      x.values.linearAcceleration = -a.values.transport ∧
      (x.values.SameMotion .identity ↔
        a.values.angularVelocity.cross a.values.position = 0 ∧ a.values.transport = 0) := by
  have hplacement := CartesianValues.compose_inverse hrotation
  exact ⟨_, _, CartesianState.inverse_eq_ok hfilled,
    CartesianState.compose_eq_ok_iff.mpr ⟨hfilled, hfilled, rfl, rfl⟩, rfl, rfl,
    hplacement.position, hplacement.orientation,
    CartesianValues.angularVelocity_compose_inverse hrotation,
    CartesianValues.angularAcceleration_compose_inverse hrotation,
    CartesianValues.force_compose_inverse hrotation,
    CartesianValues.torque_compose_inverse hrotation,
    CartesianValues.linearVelocity_compose_inverse hrotation,
    CartesianValues.linearAcceleration_compose_inverse hrotation,
    CartesianValues.compose_inverse_sameMotion_iff hrotation⟩

theorem motion_of_compose_inverse_circling :
    let a : CartesianState ℝ :=
      (((CartesianState.identity "arm" "base" ⟨0⟩).setOrientation ⟨3 / 5, 0, 0, 4 / 5⟩).setVector
        .position ⟨1, 0, 0⟩).setVector .angularVelocity ⟨0, 0, 1⟩
    ∃ i x, a.inverse = .ok i ∧ a.compose i ⟨1⟩ = .ok x ∧ x.values.position = 0 ∧
      x.values.orientation.SameRotation .identity ∧
      x.values.linearVelocity = -a.values.angularVelocity.cross a.values.position ∧
      x.values.linearAcceleration = -a.values.transport := by
  intro a
  have hrotation : (⟨3 / 5, 0, 0, 4 / 5⟩ : Quaternion ℝ).IsRotation := by
    norm_num [Quaternion.IsRotation, Quaternion.normSq, Quaternion.dot]
  obtain ⟨i, x, hi, hx, -, -, hposition, horientation, -, -, -, -, hvelocity, hacceleration, -⟩ :=
    motion_of_compose_inverse a rfl hrotation ⟨1⟩
  exact ⟨i, x, hi, hx, hposition, horientation, hvelocity, hacceleration⟩

end Kinematics
