import Kinematics.Proofs.Joint.Filled
import Kinematics.Proofs.Joint.Sum

/-!
# Distances between joint states

The distance of two joint states is the sum of what the selected fields are apart. It is defined
between filled states with the same joints only. Each field is a point of Euclidean space, with one
coordinate per joint, and the distance is what such points are apart.
-/

namespace Kinematics

namespace JointValues

/-- How far two states are apart in one field. -/
def fieldDistance {α : Type} [Scalar α] (u v : JointValues α) (field : JointField) : α :=
  Scalar.norm (List.zipWith (· - ·) (u.get field) (v.get field))

/-- How far two states are apart in the fields, taken together. -/
def distance {α : Type} [Scalar α] (fields : List JointField) (u v : JointValues α) : α :=
  Scalar.sum (fields.map (u.fieldDistance v))

/-- The numbers of a field as a point of Euclidean space. -/
noncomputable def coordinates (v : JointValues ℝ) (size : ℕ) (field : JointField) :
    EuclideanSpace ℝ (Fin size) :=
  .toLp _ fun i => (v.get field).getD i 0

section Field
variable {u v w : JointValues ℝ} {size : ℕ} (hu : u.Sized size) (hv : v.Sized size)
  (hw : w.Sized size) (field : JointField)

include hu in
theorem get_eq_ofFn : u.get field = List.ofFn (u.coordinates size field).ofLp := by
  apply List.ext_getElem
  · rw [hu field, List.length_ofFn]
  · intro i hi _
    rw [List.getElem_ofFn]
    exact (List.getD_eq_getElem _ 0 hi).symm

include hu hv

theorem coordinates_inj :
    u.coordinates size field = v.coordinates size field ↔ u.get field = v.get field := by
  rw [get_eq_ofFn hu, get_eq_ofFn hv, List.ofFn_inj]
  exact (WithLp.ofLp_injective 2).eq_iff.symm

theorem fieldDistance_eq_dist :
    u.fieldDistance v field = dist (u.coordinates size field) (v.coordinates size field) := by
  rw [fieldDistance, get_eq_ofFn hu, get_eq_ofFn hv, Scalar.zipWith_ofFn, dist_eq_norm]
  exact Scalar.norm_ofFn (u.coordinates size field - v.coordinates size field)

theorem coordinates_add :
    (u.zipWith (fun x y => x + 1 * y) v).coordinates size field =
      u.coordinates size field + v.coordinates size field := by
  ext i
  rw [coordinates, get_zipWith, get_eq_ofFn hu, get_eq_ofFn hv, Scalar.zipWith_ofFn]
  simp

theorem fieldDistance_comm : u.fieldDistance v field = v.fieldDistance u field := by
  rw [fieldDistance_eq_dist hu hv, fieldDistance_eq_dist hv hu, dist_comm]

theorem fieldDistance_nonneg : 0 ≤ u.fieldDistance v field := by
  rw [fieldDistance_eq_dist hu hv]
  exact dist_nonneg

theorem fieldDistance_eq_zero_iff : u.fieldDistance v field = 0 ↔ u.get field = v.get field := by
  rw [fieldDistance_eq_dist hu hv, dist_eq_zero, coordinates_inj hu hv]

include hw

theorem fieldDistance_triangle :
    u.fieldDistance w field ≤ u.fieldDistance v field + v.fieldDistance w field := by
  rw [fieldDistance_eq_dist hu hw, fieldDistance_eq_dist hu hv, fieldDistance_eq_dist hv hw]
  exact dist_triangle _ _ _

/-- What is added to both states does not move them apart. -/
theorem fieldDistance_add_add :
    (u.zipWith (fun x y => x + 1 * y) w).fieldDistance (v.zipWith (fun x y => x + 1 * y) w) field =
      u.fieldDistance v field := by
  rw [fieldDistance_eq_dist (hu.zipWith hw _) (hv.zipWith hw _), coordinates_add hu hw,
    coordinates_add hv hw, dist_add_right, fieldDistance_eq_dist hu hv]

end Field

section Distance
variable {u v w : JointValues ℝ} {size : ℕ} (hu : u.Sized size) (hv : v.Sized size)
  (hw : w.Sized size) (fields : List JointField)
include hu hv

theorem distance_comm : distance fields u v = distance fields v u := by
  rw [distance, distance, List.map_congr_left fun field _ => fieldDistance_comm hu hv field]

theorem distance_nonneg : 0 ≤ distance fields u v :=
  Scalar.sum_map_nonneg (fieldDistance_nonneg hu hv) fields

theorem distance_eq_zero_iff :
    distance fields u v = 0 ↔ ∀ field ∈ fields, u.get field = v.get field := by
  rw [distance, Scalar.sum_map_eq_zero_iff (fieldDistance_nonneg hu hv)]
  exact forall₂_congr fun field _ => fieldDistance_eq_zero_iff hu hv field

include hw

theorem distance_triangle :
    distance fields u w ≤ distance fields u v + distance fields v w :=
  Scalar.sum_map_le_add (fieldDistance_triangle hu hv hw) fields

theorem distance_add_add :
    distance fields (u.zipWith (fun x y => x + 1 * y) w) (v.zipWith (fun x y => x + 1 * y) w) =
      distance fields u v := by
  rw [distance, distance,
    List.map_congr_left fun field _ => fieldDistance_add_add hu hv hw field]

end Distance

/-- The distance in all fields is the sum of the distances in each of them. -/
theorem distance_all (u v : JointValues ℝ) :
    distance JointSelection.all.fields u v =
      distance [.positions] u v + distance [.velocities] u v +
        distance [.accelerations] u v + distance [.torques] u v := by
  simp only [distance, Scalar.sum_eq, JointSelection.fields, List.map_cons, List.map_nil,
    List.sum_cons, List.sum_nil, add_zero, add_assoc]

end JointValues

namespace JointState

theorem dist_eq_ok {α : Type} [Scalar α] {a b : JointState α} (ha : a.empty = false)
    (hb : b.empty = false) (h : a.Alike b) (selection : JointSelection) :
    a.dist b selection = .ok (a.values.distance selection.fields b.values) := by
  rw [dist, State.assertFilled_eq_ok ha, State.assertFilled_eq_ok hb,
    assertCompatible_eq_ok_iff.mpr h]
  rfl

theorem alike_of_dist_eq_ok {α : Type} [Scalar α] {a b : JointState α}
    {selection : JointSelection} {d : α} (h : a.dist b selection = .ok d) : a.Alike b := by
  obtain ⟨-, h⟩ := State.of_assertFilled_bind_eq_ok h
  obtain ⟨-, h⟩ := State.of_assertFilled_bind_eq_ok h
  obtain ⟨_, hcompatible, -⟩ := exists_of_bind_eq_ok h
  exact assertCompatible_eq_ok_iff.mp hcompatible

end JointState

open JointState (Alike combine_eq_ok combined dist_eq_ok isCompatible_iff) in
/-- To have the same joints is an equivalence of joint states, and the distance is defined between
the filled states of one class. There it is a pseudometric: two states are no distance apart if and
only if they agree in the selected fields. It is the sum of the distances in the single fields, and
adding the same to both states does not change it. -/
theorem joint_distances_form_pseudometric :
    (Equivalence fun a b : JointState ℝ => a.isCompatible b = true) ∧
    (∀ a b : JointState ℝ, a.isCompatible b = true ↔ a.type = b.type ∧ a.names = b.names) ∧
    (∀ (a b : JointState ℝ) (selection : JointSelection),
      (∃ d, a.dist b selection = .ok d) ↔
        a.empty = false ∧ b.empty = false ∧ a.isCompatible b = true) ∧
    (∀ (a b : JointState ℝ) (selection : JointSelection), a.Sized → b.Sized →
      a.empty = false → b.empty = false → a.isCompatible b = true →
      ∃ d, a.dist b selection = .ok d ∧ b.dist a selection = .ok d ∧ 0 ≤ d ∧
        (d = 0 ↔ ∀ field ∈ selection.fields, a.values.get field = b.values.get field) ∧
        ∀ c : JointState ℝ, c.Sized → c.empty = false → b.isCompatible c = true →
          (∃ x y, a.dist c selection = .ok x ∧ b.dist c selection = .ok y ∧ x ≤ d + y) ∧
          ∃ a' b', a.add c = .ok a' ∧ b.add c = .ok b' ∧ a'.dist b' selection = .ok d) ∧
    ∀ a b : JointState ℝ, a.empty = false → b.empty = false → a.isCompatible b = true →
      ∃ p v q t, a.dist b .positions = .ok p ∧ a.dist b .velocities = .ok v ∧
        a.dist b .accelerations = .ok q ∧ a.dist b .torques = .ok t ∧
        a.dist b .all = .ok (p + v + q + t) := by
  simp only [isCompatible_iff]
  refine ⟨⟨Alike.refl, Alike.symm, Alike.trans⟩, fun a b => .rfl, fun a b selection => ⟨?_, ?_⟩,
    fun a b selection ha hb hfilled hfilled' hab => ?_, fun a b ha hb hab => ?_⟩
  · rintro ⟨d, h⟩
    obtain ⟨ha, hb⟩ := JointState.filled_of_dist h
    exact ⟨ha, hb, JointState.alike_of_dist_eq_ok h⟩
  · rintro ⟨ha, hb, hab⟩
    exact ⟨_, dist_eq_ok ha hb hab selection⟩
  · have hb : b.values.Sized a.size := hab.size_eq ▸ hb
    refine ⟨_, dist_eq_ok hfilled hfilled' hab selection, ?_, JointValues.distance_nonneg ha hb _,
      JointValues.distance_eq_zero_iff ha hb _, fun c hc hfilled'' hbc => ⟨?_, ?_⟩⟩
    · rw [JointValues.distance_comm ha hb]
      exact dist_eq_ok hfilled' hfilled hab.symm selection
    · have hc : c.values.Sized a.size := (hab.trans hbc).size_eq ▸ hc
      exact ⟨_, _, dist_eq_ok hfilled hfilled'' (hab.trans hbc) selection,
        dist_eq_ok hfilled' hfilled'' hbc selection, JointValues.distance_triangle ha hb hc _⟩
    · have hc : c.values.Sized a.size := (hab.trans hbc).size_eq ▸ hc
      refine ⟨_, _, combine_eq_ok hfilled hfilled'' (hab.trans hbc) 1,
        combine_eq_ok hfilled' hfilled'' hbc 1, ?_⟩
      have hsum : (combined 1 a c).empty = false := hfilled
      have hsum' : (combined 1 b c).empty = false := hfilled'
      rw [← JointValues.distance_add_add ha hb hc]
      exact dist_eq_ok hsum hsum' hab selection
  · refine ⟨_, _, _, _, dist_eq_ok ha hb hab _, dist_eq_ok ha hb hab _, dist_eq_ok ha hb hab _,
      dist_eq_ok ha hb hab _, ?_⟩
    rw [dist_eq_ok ha hb hab, JointValues.distance_all]
    rfl

theorem joint_distances_form_pseudometric_arms :
    let arm (positions : List ℝ) : JointState ℝ :=
      { (JointState.zero "arm" ["shoulder", "elbow"] ⟨0⟩ : JointState ℝ) with
        values := ⟨positions, [0, 0], [0, 0], [0, 0]⟩ }
    let a := arm [0, 0]
    let b := arm [3, 4]
    let c := arm [1, 2]
    a.Sized ∧ b.Sized ∧ a.isCompatible b = true ∧
      ∃ d, a.dist b .positions = .ok d ∧ b.dist a .positions = .ok d ∧ d ≠ 0 ∧
        (∃ x y, a.dist c .positions = .ok x ∧ b.dist c .positions = .ok y ∧ x ≤ d + y) ∧
        (∃ a' b', a.add c = .ok a' ∧ b.add c = .ok b' ∧ a'.dist b' .positions = .ok d) ∧
        ∃ p v q t, a.dist b .positions = .ok p ∧ a.dist b .velocities = .ok v ∧
          a.dist b .accelerations = .ok q ∧ a.dist b .torques = .ok t ∧
          a.dist b .all = .ok (p + v + q + t) := by
  intro arm a b c
  obtain ⟨-, hcompatible, -, hmetric, hall⟩ := joint_distances_form_pseudometric
  have hsized (x y : ℝ) : (arm [x, y]).Sized := by
    intro field
    cases field <;> rfl
  have harms (xs ys : List ℝ) : (arm xs).isCompatible (arm ys) = true :=
    (hcompatible _ _).mpr ⟨rfl, rfl⟩
  obtain ⟨d, hd, hd', -, hzero, hthird⟩ :=
    hmetric a b .positions (hsized 0 0) (hsized 3 4) rfl rfl (harms _ _)
  obtain ⟨htriangle, hsum⟩ := hthird c (hsized 1 2) rfl (harms _ _)
  refine ⟨hsized 0 0, hsized 3 4, harms _ _, d, hd, hd', fun h => ?_, htriangle, hsum,
    hall a b rfl rfl (harms _ _)⟩
  have hpositions : ([0, 0] : List ℝ) = [3, 4] := hzero.mp h .positions (List.mem_singleton.mpr rfl)
  norm_num at hpositions

end Kinematics
