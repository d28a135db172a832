import Kinematics.Proofs.Rotation.Distance
import Kinematics.Proofs.Cartesian.Orientation

/-!
# Distances between Cartesian states

The distance of two states is the sum of what the selected fields are apart. It is defined between
states with related frames only, and is a pseudometric wherever it is defined: each field adds a
metric of vectors or of rotations.
-/

namespace Kinematics

namespace CartesianValues
open CartesianState (angle)

/-- How far two states are apart in one field. -/
def fieldDistance {α : Type} [Scalar α] (u v : CartesianValues α) : CartesianField → α
  | .orientation => angle u.orientation v.orientation
  | .vector field => (u.vector field - v.vector field).norm

/-- How far two states are apart in the fields, taken together. -/
def distance {α : Type} [Scalar α] (fields : List CartesianField) (u v : CartesianValues α) : α :=
  Scalar.sum (fields.map (u.fieldDistance v))

section Field
variable {u v w : CartesianValues ℝ}

theorem fieldDistance_comm (u v : CartesianValues ℝ) (field : CartesianField) :
    u.fieldDistance v field = v.fieldDistance u field := by
  cases field with
  | orientation => exact Quaternion.angle_comm _ _
  | vector field => exact Vector3.norm_sub_comm _ _

theorem fieldDistance_nonneg (u v : CartesianValues ℝ) (field : CartesianField) :
    0 ≤ u.fieldDistance v field := by
  cases field with
  | orientation => exact Quaternion.angle_nonneg _ _
  | vector field => exact Vector3.norm_nonneg _

theorem fieldDistance_self (hu : u.orientation.IsRotation) (field : CartesianField) :
    u.fieldDistance u field = 0 := by
  cases field with
  | orientation => exact Quaternion.angle_self hu
  | vector field => exact Vector3.norm_sub_eq_zero_iff.mpr rfl

theorem fieldDistance_triangle (hu : u.orientation.IsRotation) (hv : v.orientation.IsRotation)
    (hw : w.orientation.IsRotation) (field : CartesianField) :
    u.fieldDistance w field ≤ u.fieldDistance v field + v.fieldDistance w field := by
  cases field with
  | orientation => exact Quaternion.angle_le_angle_add_angle hu hv hw
  | vector field => exact Vector3.norm_sub_le _ _ _

end Field

section Distance
variable {u v w u' v' : CartesianValues ℝ} (fields : List CartesianField)

variable {fields} in
theorem distance_congr
    (h : ∀ field ∈ fields, u.fieldDistance v field = u'.fieldDistance v' field) :
    distance fields u v = distance fields u' v' := by
  rw [distance, distance, List.map_congr_left h]

theorem distance_comm (u v : CartesianValues ℝ) : distance fields u v = distance fields v u :=
  distance_congr fun field _ => fieldDistance_comm u v field

theorem distance_nonneg (u v : CartesianValues ℝ) : 0 ≤ distance fields u v :=
  Scalar.sum_map_nonneg (fieldDistance_nonneg u v) fields

theorem distance_self (hu : u.orientation.IsRotation) : distance fields u u = 0 := by
  rw [distance, Scalar.sum_map_eq_zero_iff (fieldDistance_nonneg u u)]
  intro field _
  exact fieldDistance_self hu field

theorem distance_eq_zero_iff (hu : u.orientation.IsRotation) (hv : v.orientation.IsRotation) :
    distance fields u v = 0 ↔
      (∀ field, .vector field ∈ fields → u.vector field = v.vector field) ∧
        (.orientation ∈ fields → u.orientation.SameRotation v.orientation) := by
  rw [distance, Scalar.sum_map_eq_zero_iff (fieldDistance_nonneg u v)]
  constructor
  · intro h
    exact ⟨fun field hin => Vector3.norm_sub_eq_zero_iff.mp (h _ hin),
      fun hin => (Quaternion.angle_eq_zero_iff hu hv).mp (h _ hin)⟩
  · rintro ⟨hvector, horientation⟩ field hin
    cases field with
    | orientation => exact (Quaternion.angle_eq_zero_iff hu hv).mpr (horientation hin)
    | vector field => exact Vector3.norm_sub_eq_zero_iff.mpr (hvector field hin)

theorem distance_triangle (hu : u.orientation.IsRotation) (hv : v.orientation.IsRotation)
    (hw : w.orientation.IsRotation) :
    distance fields u w ≤ distance fields u v + distance fields v w :=
  Scalar.sum_map_le_add (fieldDistance_triangle hu hv hw) fields

end Distance
end CartesianValues

namespace CartesianState

theorem dist_eq_ok_iff {α : Type} [Scalar α] {a b : CartesianState α}
    {selection : CartesianSelection} {d : α} :
    a.dist b selection = .ok d ↔ a.empty = false ∧ b.empty = false ∧
      a.toSpatialState.Related b.toSpatialState ∧
        a.values.distance selection.fields b.values = d := by
  constructor
  · intro h
    obtain ⟨ha, h⟩ := State.of_assertFilled_bind_eq_ok h
    obtain ⟨hb, h⟩ := State.of_assertFilled_bind_eq_ok h
    obtain ⟨_, hrelated, h⟩ := exists_of_bind_eq_ok h
    exact ⟨ha, hb, SpatialState.assertCompatible_eq_ok_iff.mp hrelated, Except.ok.inj h⟩
  · rintro ⟨ha, hb, hrelated, rfl⟩
    rw [dist, State.assertFilled_eq_ok ha, State.assertFilled_eq_ok hb,
      SpatialState.assertCompatible_eq_ok_iff.mpr hrelated]
    rfl

theorem dist_eq_ok {α : Type} [Scalar α] {a b : CartesianState α} (ha : a.empty = false)
    (hb : b.empty = false) (hrelated : a.toSpatialState.Related b.toSpatialState)
    (selection : CartesianSelection) :
    a.dist b selection = .ok (a.values.distance selection.fields b.values) :=
  dist_eq_ok_iff.mpr ⟨ha, hb, hrelated, rfl⟩

theorem dist_comm {a b : CartesianState ℝ} {selection : CartesianSelection} {d : ℝ}
    (h : a.dist b selection = .ok d) : b.dist a selection = .ok d := by
  obtain ⟨ha, hb, hrelated, rfl⟩ := dist_eq_ok_iff.mp h
  rw [dist_eq_ok hb ha hrelated.symm, CartesianValues.distance_comm]

end CartesianState

open CartesianState (angle dist_comm dist_eq_ok dist_eq_ok_iff) in
/-- The distance of states with unit quaternions is a pseudometric where it is defined, which is
between filled states with related frames. It does not tell states apart that agree in the selected
vectors and rotations. The cosine of an angle between rotations is never out of bounds. -/
theorem distances_form_pseudometric (selection : CartesianSelection) :
    (∀ a b : CartesianState ℝ,
      ((∃ d, a.dist b selection = .ok d) ↔ a.empty = false ∧ b.empty = false ∧
        a.toSpatialState.Related b.toSpatialState) ∧
      ∀ d, (a.dist b selection = .ok d ↔ b.dist a selection = .ok d) ∧
        (a.dist b selection = .ok d → 0 ≤ d)) ∧
    (∀ a : CartesianState ℝ, a.empty = false → a.Oriented → a.dist a selection = .ok 0) ∧
    (∀ a b : CartesianState ℝ, a.empty = false → b.empty = false → a.Oriented → b.Oriented →
      a.toSpatialState.Related b.toSpatialState →
      (a.dist b selection = .ok 0 ↔
        (∀ field, .vector field ∈ selection.fields →
          a.values.vector field = b.values.vector field) ∧
        (.orientation ∈ selection.fields →
          a.values.orientation.SameRotation b.values.orientation))) ∧
    (∀ a b c : CartesianState ℝ, a.empty = false → b.empty = false → c.empty = false →
      a.Oriented → b.Oriented → c.Oriented → a.toSpatialState.Related b.toSpatialState →
      b.toSpatialState.Related c.toSpatialState → a.toSpatialState.Related c.toSpatialState →
      ∃ x y z, a.dist c selection = .ok x ∧ a.dist b selection = .ok y ∧
        b.dist c selection = .ok z ∧ x ≤ y + z) ∧
    ∀ a b : CartesianState ℝ, a.Oriented → b.Oriented →
      let p := a.values.orientation
      let q := b.values.orientation
      let cosine := Scalar.two * p.dot q * p.dot q - 1
      cosine ∈ Set.Icc (-1) 1 ∧ angle p q = Real.arccos cosine := by
  refine ⟨fun a b => ⟨⟨?_, ?_⟩, fun d => ⟨⟨dist_comm, dist_comm⟩, ?_⟩⟩, ?_, ?_, ?_, ?_⟩
  · rintro ⟨d, h⟩
    obtain ⟨ha, hb, hrelated, -⟩ := dist_eq_ok_iff.mp h
    exact ⟨ha, hb, hrelated⟩
  · rintro ⟨ha, hb, hrelated⟩
    exact ⟨_, dist_eq_ok ha hb hrelated selection⟩
  · intro h
    obtain ⟨-, -, -, rfl⟩ := dist_eq_ok_iff.mp h
    exact CartesianValues.distance_nonneg _ _ _
  · intro a ha ha'
    rw [dist_eq_ok ha ha (.refl _), CartesianValues.distance_self _ ha']
  · intro a b ha hb ha' hb' hrelated
    rw [dist_eq_ok ha hb hrelated, Except.ok.injEq]
    exact CartesianValues.distance_eq_zero_iff _ ha' hb'
  · intro a b c ha hb hc ha' hb' hc' hab hbc hac
    exact ⟨_, _, _, dist_eq_ok ha hc hac selection, dist_eq_ok ha hb hab selection,
      dist_eq_ok hb hc hbc selection, CartesianValues.distance_triangle _ ha' hb' hc'⟩
  · intro a b ha hb p q cosine
    refine ⟨Quaternion.cosine_mem_Icc ha hb, ?_⟩
    rw [Quaternion.angle_eq_arccos ha hb]
    simp only [cosine, Scalar.two_eq, mul_assoc]
    rfl

/-- The two quaternions of a rotation are no distance apart. -/
theorem distances_form_pseudometric_opposite :
    let turned (q : Quaternion ℝ) : CartesianState ℝ :=
      (CartesianState.identity "arm" "base" ⟨0⟩).setOrientation q
    let a := turned ⟨3 / 5, 0, 0, 4 / 5⟩
    let b := turned (-⟨3 / 5, 0, 0, 4 / 5⟩)
    let c := turned ⟨0, 0, 0, 1⟩
    a.empty = false ∧ a.Oriented ∧ b.Oriented ∧ c.Oriented ∧ a.dist b .all = .ok 0 ∧
      a.dist a .all = .ok 0 ∧ ∃ x y z, a.dist c .all = .ok x ∧ a.dist b .all = .ok y ∧
        b.dist c .all = .ok z ∧ 0 ≤ x ∧ x ≤ y + z := by
  intro turned a b c
  have ha : a.Oriented := Quaternion.IsRotation.of_coefficients (by norm_num)
  have hb : b.Oriented := Quaternion.IsRotation.neg ha
  have hc : c.Oriented := Quaternion.IsRotation.of_coefficients (by norm_num)
  have hrelated (p q : Quaternion ℝ) :
      (turned p).toSpatialState.Related (turned q).toSpatialState := .inr (.inr rfl)
  obtain ⟨hdefined, hself, hzero, htriangle, -⟩ := distances_form_pseudometric .all
  obtain ⟨x, y, z, hx, hy, hz, hle⟩ := htriangle a b c rfl rfl rfl ha hb hc (hrelated _ _)
    (hrelated _ _) (hrelated _ _)
  have hnonneg := ((hdefined a c).2 x).2 hx
  refine ⟨rfl, ha, hb, hc, ?_, hself a rfl ha, x, y, z, hx, hy, hz, hnonneg, hle⟩
  rw [hzero a b rfl rfl ha hb (hrelated _ _)]
  refine ⟨fun field _ => ?_, fun _ => .inr (Quaternion.neg_neg _).symm⟩
  exact (CartesianValues.vector_setOrientation _ _ field).trans
    (CartesianValues.vector_setOrientation _ _ field).symm

end Kinematics
