import Kinematics.Proofs.Rotation
import Kinematics.Proofs.Cartesian.Outcome

/-!
# Sums, differences and multiples of Cartesian states

What is checked of the operands, and apart from it the fields of the result. Rotations are summed
by their product, up to the sign of the quaternion.
-/

namespace Kinematics.CartesianState
variable {α : Type} [Scalar α]

/-- The fields of a sum or of a difference. -/
def sumValues (subtract : Bool) (a b : CartesianValues α) : CartesianValues α :=
  let sign : α := if subtract then -1 else 1
  let aligned := b.orientation.alignedWith a.orientation
  let turn := if subtract then aligned.conjugate else aligned
  (a.mapVectors fun field v => v + (b.vector field).scale sign).setOrientation
    (a.orientation * turn).normalize

/-- The fields of a negation. -/
def negatedValues (v : CartesianValues α) : CartesianValues α :=
  (v.mapVectors fun _ x => -x).setOrientation v.orientation.conjugate

/-- The fields of a multiple. -/
def multipleValues (k : α) (v : CartesianValues α) : CartesianValues α :=
  (v.mapVectors fun _ x => x.scale k).setOrientation
    (Quaternion.exp v.orientation.log.vectorPart k)

theorem combine_eq (subtract : Bool) (a b : CartesianState α) :
    combine subtract a b = do
      a.assertFilled
      b.assertFilled
      a.toSpatialState.assertCompatible b.toSpatialState
      return { a with values := sumValues subtract a.values b.values } := rfl

section Fields
variable (subtract : Bool) (a b : CartesianValues α)

theorem orientation_sum :
    (sumValues subtract a b).orientation =
      (a.orientation * if subtract then (b.orientation.alignedWith a.orientation).conjugate
        else b.orientation.alignedWith a.orientation).normalize := rfl

theorem vector_sum (field : VectorField) :
    (sumValues subtract a b).vector field =
      a.vector field + (b.vector field).scale (if subtract then -1 else 1) := by
  rw [sumValues, CartesianValues.vector_setOrientation, CartesianValues.vector_mapVectors]

theorem orientation_negated : (negatedValues a).orientation = a.orientation.conjugate := rfl

theorem vector_negated (field : VectorField) :
    (negatedValues a).vector field = -a.vector field := by
  rw [negatedValues, CartesianValues.vector_setOrientation, CartesianValues.vector_mapVectors]

theorem orientation_multiple (k : α) :
    (multipleValues k a).orientation = Quaternion.exp a.orientation.log.vectorPart k := rfl

theorem vector_multiple (k : α) (field : VectorField) :
    (multipleValues k a).vector field = (a.vector field).scale k := by
  rw [multipleValues, CartesianValues.vector_setOrientation, CartesianValues.vector_mapVectors]

end Fields

section Rotations
variable {a b : CartesianValues ℝ}

theorem orientation_add (ha : a.orientation.IsRotation) (hb : b.orientation.IsRotation) :
    (sumValues false a b).orientation.SameRotation (a.orientation * b.orientation) :=
  Quaternion.normalize_mul_alignedWith ha hb

theorem orientation_sub (ha : a.orientation.IsRotation) (hb : b.orientation.IsRotation) :
    (sumValues true a b).orientation.SameRotation
      (a.orientation * b.orientation.conjugate) := by
  have hsame := (Quaternion.alignedWith_sameRotation b.orientation a.orientation).conjugate
  rw [orientation_sum, if_pos rfl, (ha.mul (hsame.isRotation hb.conjugate)).normalize_eq]
  exact .mul (.refl _) hsame

theorem isRotation_sum (subtract : Bool) (ha : a.orientation.IsRotation)
    (hb : b.orientation.IsRotation) : (sumValues subtract a b).orientation.IsRotation := by
  cases subtract with
  | false => exact (orientation_add ha hb).isRotation (ha.mul hb)
  | true => exact (orientation_sub ha hb).isRotation (ha.mul hb.conjugate)

theorem vector_add (a b : CartesianValues ℝ) (field : VectorField) :
    (sumValues false a b).vector field = a.vector field + b.vector field := by
  rw [vector_sum, if_neg Bool.false_ne_true, Vector3.scale_one]

theorem vector_sub (a b : CartesianValues ℝ) (field : VectorField) :
    (sumValues true a b).vector field = a.vector field - b.vector field := by
  rw [vector_sum, if_pos rfl, ← Vector3.neg_scale, Vector3.scale_one, sub_eq_add_neg]

end Rotations

section Outcomes
variable {s a b : CartesianState α}

/-- The sum or the difference of two states; name, frame, type and timestamp are those of the
first. -/
def combined (subtract : Bool) (a b : CartesianState α) : CartesianState α :=
  { a with values := sumValues subtract a.values b.values }

theorem combine_eq_ok (ha : a.empty = false) (hb : b.empty = false)
    (hrelated : a.toSpatialState.Related b.toSpatialState) (subtract : Bool) :
    combine subtract a b = .ok (combined subtract a b) := by
  rw [combine_eq, State.assertFilled_eq_ok ha, State.assertFilled_eq_ok hb,
    SpatialState.assertCompatible_eq_ok_iff.mpr hrelated]
  rfl

/-- The multiple of a state; name, frame, type and timestamp stay. -/
def multiple (s : CartesianState α) (k : α) : CartesianState α :=
  { s with values := multipleValues k s.values }

theorem empty_multiple (s : CartesianState α) (k : α) : (s.multiple k).empty = s.empty := rfl

theorem scale_eq_ok (hs : s.empty = false) (k : α) : s.scale k = .ok (s.multiple k) := by
  rw [scale, State.assertFilled_eq_ok hs]
  rfl

theorem negate_eq_ok (hs : s.empty = false) :
    s.negate = .ok { s with values := negatedValues s.values } := by
  rw [negate, State.assertFilled_eq_ok hs]
  rfl

end Outcomes
end Kinematics.CartesianState
