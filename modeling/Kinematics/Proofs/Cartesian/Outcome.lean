import Kinematics.Cartesian.Algebra
import Kinematics.Proofs.Edit

/-!
# Outcomes of the algebra

When an operation on Cartesian states succeeds, and what it keeps of its first operand.
-/

namespace Kinematics

namespace SpatialState
variable {α : Type} {s t : SpatialState}

/-- One is named as the other's reference frame, or both share theirs. -/
def Related (s t : SpatialState) : Prop :=
  s.name = t.frame ∨ s.frame = t.name ∨ s.frame = t.frame

theorem Related.refl (s : SpatialState) : s.Related s := .inr (.inr rfl)

theorem Related.symm (h : s.Related t) : t.Related s := by
  obtain h | h | h := h
  · exact .inr (.inl h.symm)
  · exact .inl h.symm
  · exact .inr (.inr h.symm)

theorem isCompatible_iff : s.isCompatible t = true ↔ s.Related t := by
  simp [isCompatible, Related, or_assoc]

theorem assertCompatible_eq_ok_iff :
    (s.assertCompatible t : Except (StateError α) Unit) = .ok () ↔ s.Related t := by
  rw [← isCompatible_iff, assertCompatible]
  split
  case isTrue h => simp [h]
  case isFalse h => simp [h]

end SpatialState

namespace CartesianState
variable {α : Type} [Scalar α]

/-- The operation succeeds under the condition `c` only, and yields a state with the identity of
`s`: its name, frame, type, timestamp and emptiness. -/
structure Yields (outcome : Except (StateError α) (CartesianState α)) (s : CartesianState α)
    (c : Prop) : Prop where
  exists_ok : c → ∃ t, outcome = .ok t
  holds {t : CartesianState α} : outcome = .ok t → c
  identity {t : CartesianState α} : outcome = .ok t → t.toSpatialState = s.toSpatialState

section Yields
variable {s : CartesianState α}

omit [Scalar α] in
/-- All operations on one state ask for a filled one. -/
theorem yields_of_filled (values : CartesianValues α) :
    Yields (do s.assertFilled; return { s with values }) s (s.empty = false) where
  exists_ok h := by
    rw [State.assertFilled_eq_ok h]
    exact ⟨_, rfl⟩
  holds h := (State.of_assertFilled_bind_eq_ok h).1
  identity h := by
    obtain ⟨-, h⟩ := State.of_assertFilled_bind_eq_ok h
    cases h
    rfl

theorem yields_divide (s : CartesianState α) (k : α) :
    Yields (s.divide k) s (s.empty = false ∧ k != 0) := by
  have hscale : Yields (s.scale (1 / k)) s (s.empty = false) := yields_of_filled _
  rw [divide]
  split
  case isTrue hzero =>
    have hk : ¬(k != 0) = true := by simp [bne, hzero]
    refine ⟨fun h => absurd h.2 hk, fun h => ?_, fun h => ?_⟩ <;> cases h
  case isFalse hzero =>
    have hk : (k != 0) = true := by simp [bne, hzero]
    exact ⟨fun h => hscale.exists_ok h.1, fun h => ⟨hscale.holds h, hk⟩, hscale.identity⟩

theorem yields_combine (subtract : Bool) (a b : CartesianState α) :
    Yields (combine subtract a b) a
      (a.empty = false ∧ b.empty = false ∧ a.toSpatialState.Related b.toSpatialState) where
  exists_ok h := by
    obtain ⟨ha, hb, hrelated⟩ := h
    rw [combine, State.assertFilled_eq_ok ha, State.assertFilled_eq_ok hb,
      SpatialState.assertCompatible_eq_ok_iff.mpr hrelated]
    exact ⟨_, rfl⟩
  holds h := by
    obtain ⟨ha, h⟩ := State.of_assertFilled_bind_eq_ok h
    obtain ⟨hb, h⟩ := State.of_assertFilled_bind_eq_ok h
    obtain ⟨_, hrelated, -⟩ := exists_of_bind_eq_ok h
    exact ⟨ha, hb, SpatialState.assertCompatible_eq_ok_iff.mp hrelated⟩
  identity h := by
    obtain ⟨-, h⟩ := State.of_assertFilled_bind_eq_ok h
    obtain ⟨-, h⟩ := State.of_assertFilled_bind_eq_ok h
    obtain ⟨-, -, h⟩ := exists_of_bind_eq_ok h
    cases h
    rfl

end Yields
end CartesianState

end Kinematics
