import Kinematics.Proofs.Cartesian.DoubleCover
import Kinematics.Proofs.Cartesian.Orientation

/-!
# Sums and differences cancel

A difference undoes the sum with the same state, and a sum the difference. Products of rotations do
not commute, but the second step takes its factor off on the side where the first has put it. Each
step aligns that factor with another quaternion, which leaves a sign at most.
-/

namespace Kinematics

namespace CartesianValues
open CartesianState (isRotation_sum negatedValues orientation_add orientation_negated
  orientation_sub sumValues vector_add vector_negated vector_sub)

section Cancellation
variable {a b : CartesianValues ℝ}

protected theorem add_sub_cancel (ha : a.orientation.IsRotation) (hb : b.orientation.IsRotation) :
    (sumValues true (sumValues false a b) b).SameFields a where
  orientation := by
    have hsum := (orientation_add ha hb).mul (.refl b.orientation.conjugate)
    rw [Quaternion.mul_assoc, hb.mul_conjugate, Quaternion.mul_identity] at hsum
    exact (orientation_sub (isRotation_sum false ha hb) hb).trans hsum
  vector field := by
    rw [vector_sub, vector_add, add_sub_cancel_right]

protected theorem sub_add_cancel (ha : a.orientation.IsRotation) (hb : b.orientation.IsRotation) :
    (sumValues false (sumValues true a b) b).SameFields a where
  orientation := by
    have hdifference := (orientation_sub ha hb).mul (.refl b.orientation)
    rw [Quaternion.mul_assoc, hb.conjugate_mul, Quaternion.mul_identity] at hdifference
    exact (orientation_add (isRotation_sum true ha hb) hb).trans hdifference
  vector field := by
    rw [vector_add, vector_sub, sub_add_cancel]

theorem sub_eq_add_negated (ha : a.orientation.IsRotation) (hb : b.orientation.IsRotation) :
    (sumValues true a b).SameFields (sumValues false a (negatedValues b)) where
  orientation :=
    (orientation_sub ha hb).trans (orientation_add (b := negatedValues b) ha hb.conjugate).symm
  vector field := by
    rw [vector_sub, vector_add, vector_negated, sub_eq_add_neg]

theorem add_negated (ha : a.orientation.IsRotation) :
    (sumValues false a (negatedValues a)).SameFields identity where
  orientation := by
    have hsum := orientation_add (b := negatedValues a) ha ha.conjugate
    rwa [orientation_negated, ha.mul_conjugate] at hsum
  vector field := by
    rw [vector_add, vector_negated, add_neg_cancel, vector_identity]

end Cancellation
end CartesianValues

open CartesianState (combine_eq_ok combined negate_eq_ok negatedValues) in
/-- A sum and a difference with one state undo each other, in either order. A difference is the sum
with the negated state, and the sum of a state with its own negation is an identity. -/
theorem sums_and_differences_cancel {a b : CartesianState ℝ} (ha : a.empty = false)
    (hb : b.empty = false) (hrelated : a.toSpatialState.Related b.toSpatialState)
    (ha' : a.Oriented) (hb' : b.Oriented) :
    (∃ r, (do (← a.add b).sub b) = .ok r ∧ r.SameState a) ∧
    (∃ r, (do (← a.sub b).add b) = .ok r ∧ r.SameState a) ∧
    (∃ r s, a.sub b = .ok r ∧ (do a.add (← b.negate)) = .ok s ∧ r.SameState s) ∧
    ∃ r, (do a.add (← a.negate)) = .ok r ∧ r.toSpatialState = a.toSpatialState ∧
      r.values.orientation.SameRotation .identity ∧ ∀ field, r.values.vector field = 0 := by
  have hsum := combine_eq_ok ha hb hrelated
  refine ⟨?_, ?_, ?_, ?_⟩
  · refine ⟨combined true (combined false a b) b, ?_, rfl,
      CartesianValues.add_sub_cancel ha' hb'⟩
    rw [CartesianState.add, hsum]
    exact combine_eq_ok (a := combined false a b) ha hb hrelated true
  · refine ⟨combined false (combined true a b) b, ?_, rfl,
      CartesianValues.sub_add_cancel ha' hb'⟩
    rw [CartesianState.sub, hsum]
    exact combine_eq_ok (a := combined true a b) ha hb hrelated false
  · let negated : CartesianState ℝ := { b with values := negatedValues b.values }
    refine ⟨combined true a b, combined false a negated, hsum true, ?_, rfl,
      CartesianValues.sub_eq_add_negated ha' hb'⟩
    rw [negate_eq_ok hb]
    exact combine_eq_ok (b := negated) ha hb hrelated false
  · let negated : CartesianState ℝ := { a with values := negatedValues a.values }
    have hsame := CartesianValues.add_negated ha'
    refine ⟨combined false a negated, ?_, rfl, hsame.orientation,
      fun field => (hsame.vector field).trans (CartesianValues.vector_identity field)⟩
    rw [negate_eq_ok ha]
    exact combine_eq_ok (b := negated) ha ha (.refl _) false

/-- The sum aligns the half turn as it is, and the difference with its other sign. -/
theorem sums_and_differences_cancel_opposite :
    let a : CartesianState ℝ := (CartesianState.identity "arm" "base" ⟨0⟩).setOrientation
      ⟨-3 / 5, 0, 0, 4 / 5⟩
    let b : CartesianState ℝ := (CartesianState.identity "base" "world" ⟨1⟩).setOrientation
      ⟨0, 0, 0, 1⟩
    a.empty = false ∧ b.empty = false ∧ a.toSpatialState.Related b.toSpatialState ∧ a.Oriented ∧
      b.Oriented ∧ (∃ r, (do (← a.add b).sub b) = .ok r ∧ r.SameState a) ∧
      (∃ r, (do (← a.sub b).add b) = .ok r ∧ r.SameState a) ∧
      (∃ r s, a.sub b = .ok r ∧ (do a.add (← b.negate)) = .ok s ∧ r.SameState s) ∧
      ∃ r, (do a.add (← a.negate)) = .ok r ∧ r.values.orientation.SameRotation .identity := by
  intro a b
  have ha : a.Oriented := Quaternion.IsRotation.of_coefficients (by norm_num)
  have hb : b.Oriented := Quaternion.IsRotation.of_coefficients (by norm_num)
  have hrelated : a.toSpatialState.Related b.toSpatialState := .inr (.inl rfl)
  obtain ⟨hsum, hdifference, hnegated, r, hr, -, hidentity, -⟩ :=
    sums_and_differences_cancel (a := a) (b := b) rfl rfl hrelated ha hb
  exact ⟨rfl, rfl, hrelated, ha, hb, hsum, hdifference, hnegated, r, hr, hidentity⟩

end Kinematics
