import Kinematics.Proofs.Clamp
import Kinematics.Proofs.Limits
import Kinematics.Proofs.Vector3
import Kinematics.Cartesian.Screw
import Kinematics.Proofs.Cartesian.Layout

/-!
# Bounds on screws

Bounding a screw multiplies its linear and its angular vector, each by a factor of its own, and
leaves everything else as it was. To see that no norm that is zero is divided by, the same program is
run on the same numbers with an undefined value beside them.
-/

namespace Kinematics

section MapNumbers
variable {α β : Type}

def Vector3.mapNumbers (f : α → β) (v : Vector3 α) : Vector3 β := ⟨f v.x, f v.y, f v.z⟩

def Quaternion.mapNumbers (f : α → β) (q : Quaternion α) : Quaternion β :=
  ⟨f q.w, f q.x, f q.y, f q.z⟩

def CartesianValues.mapNumbers (f : α → β) (v : CartesianValues α) : CartesianValues β :=
  .build (v.orientation.mapNumbers f) fun field => (v.vector field).mapNumbers f

def CartesianState.mapNumbers (f : α → β) (s : CartesianState α) : CartesianState β :=
  { toSpatialState := s.toSpatialState, values := s.values.mapNumbers f }

def CartesianProjection.mapNumbers {kind : CartesianKind} (f : α → β)
    (p : CartesianProjection α kind) : CartesianProjection β kind :=
  ⟨p.general.mapNumbers f⟩

def CartesianLimits.mapNumbers (f : α → β) (l : CartesianLimits α) : CartesianLimits β :=
  ⟨f l.maxLinear, f l.maxAngular, f l.linearRatio, f l.angularRatio⟩

theorem Vector3.toList_mapNumbers (f : α → β) (v : Vector3 α) :
    (v.mapNumbers f).toList = v.toList.map f := rfl

theorem CartesianValues.vector_mapNumbers (f : α → β) (v : CartesianValues α)
    (field : VectorField) : (v.mapNumbers f).vector field = (v.vector field).mapNumbers f := by
  rw [mapNumbers, vector_build]

theorem CartesianValues.setVector_mapNumbers (f : α → β) (v : CartesianValues α)
    (field : VectorField) (x : Vector3 α) :
    (v.mapNumbers f).setVector field (x.mapNumbers f) = (v.setVector field x).mapNumbers f := by
  apply ext_vector
  · rfl
  · intro other
    rw [vector_mapNumbers, setVector, setVector, vector_build, vector_build, vector_mapNumbers]
    split <;> rfl

theorem CartesianState.setVector_mapNumbers (f : α → β) (s : CartesianState α)
    (field : VectorField) (x : Vector3 α) :
    (s.mapNumbers f).setVector field (x.mapNumbers f) = (s.setVector field x).mapNumbers f :=
  congrArg (s.mapNumbers f).setValues (CartesianValues.setVector_mapNumbers f s.values field x)

end MapNumbers

theorem CartesianState.setVector_self {α : Type} {s : CartesianState α} (hs : s.empty = false)
    (field : VectorField) : s.setVector field (s.values.vector field) = s := by
  have hvalues : s.values.setVector field (s.values.vector field) = s.values := by
    apply CartesianValues.ext_vector
    · rfl
    · intro other
      rw [CartesianValues.setVector, CartesianValues.vector_build]
      split
      case isTrue heq => rw [heq]
      case isFalse => rfl
  rw [setVector, hvalues, setValues_of_filled hs]

namespace Vector3

/-- The vector, bounded in its norm. -/
def limited {α : Type} [Scalar α] (bound ratio : α) (v : Vector3 α) : Vector3 α :=
  v.mapNumbers (ClampAction.of (Scalar.norm v.toList) bound ratio).apply

theorem norm_toList (v : Vector3 ℝ) : Scalar.norm v.toList = v.norm := by
  simp [Scalar.norm, Scalar.sum_eq, Scalar.square, toList, norm, dot, add_assoc]

theorem limited_eq (bound ratio : ℝ) (v : Vector3 ℝ) :
    v.limited bound ratio = v.scale (ClampAction.of v.norm bound ratio).factor := by
  rw [limited, norm_toList]
  ext <;> exact ClampAction.apply_eq _ _

theorem limited_defined {bound ratio : ℝ} {v : Vector3 ℝ}
    (h : Covers bound ratio v.norm) :
    (v.mapNumbers PartialReal.defined).limited (.defined bound) (.defined ratio) =
      (v.limited bound ratio).mapNumbers PartialReal.defined := by
  rw [limited, limited, toList_mapNumbers, PartialReal.norm_map_defined, norm_toList,
    ClampAction.of_defined_eq_map h]
  ext <;> exact ClampAction.apply_map_defined _ _

/-- `w` is `v` brought under the bound, with the dead zone. -/
structure Limited (bound ratio : ℝ) (v w : Vector3 ℝ) : Prop where
  multiple : ∃ k ∈ Set.Icc 0 1, w = v.scale k
  norm_le : w.norm ≤ bound
  silent_or_le : w.norm = 0 ∨ ratio * bound ≤ w.norm
  unchanged : ratio * bound ≤ v.norm → v.norm ≤ bound → w = v

section Accepted
variable {bound ratio : ℝ} (v : Vector3 ℝ)

theorem norm_limited (hbound : 0 ≤ bound) :
    (v.limited bound ratio).norm = v.norm * (ClampAction.of v.norm bound ratio).factor := by
  have hfactor : (ClampAction.of v.norm bound ratio).factor ∈ Set.Icc 0 1 :=
    ClampAction.factor_mem_Icc v.norm_nonneg (.inl hbound)
  rw [limited_eq, norm_scale, abs_of_nonneg hfactor.1, mul_comm]

theorem limited_limited (h : Accepted bound ratio) :
    (v.limited bound ratio).limited bound ratio = v.limited bound ratio := by
  obtain ⟨hbound, -, hratio⟩ := accepted_iff.mp h
  have hzero (h : v.norm = 0) : v = 0 := norm_eq_zero_iff.mp h
  rw [limited_eq bound ratio (v.limited bound ratio), norm_limited v hbound, limited_eq]
  ext
  · exact ClampAction.factor_mul_factor v.norm_nonneg hbound hratio fun h => by rw [hzero h, zero_x]
  · exact ClampAction.factor_mul_factor v.norm_nonneg hbound hratio fun h => by rw [hzero h, zero_y]
  · exact ClampAction.factor_mul_factor v.norm_nonneg hbound hratio fun h => by rw [hzero h, zero_z]

theorem Limited.of_accepted (h : Accepted bound ratio) :
    Limited bound ratio v (v.limited bound ratio) := by
  obtain ⟨hbound, -, hratio⟩ := accepted_iff.mp h
  constructor
  · exact ⟨_, ClampAction.factor_mem_Icc v.norm_nonneg (.inl hbound), limited_eq bound ratio v⟩
  · rw [norm_limited v hbound]
    exact ClampAction.mul_factor_le hbound
  · rw [norm_limited v hbound]
    exact ClampAction.mul_factor_eq_zero_or v.norm_nonneg hbound hratio
  · intro hnoise hlarge
    rw [limited_eq, ClampAction.factor_eq_one hnoise hlarge, scale_one]

end Accepted
end Vector3

section Clamp
variable {α : Type} [Scalar α] {s : CartesianState α} {selection : CartesianSelection}
  {bound ratio : α}

theorem CartesianState.clamp_applyTo (hs : s.empty = false)
    (hout : .orientation ∉ selection.fields) :
    (clamp bound selection ratio).applyTo s =
      (write selection (limited bound ratio (s.read selection))).applyTo s := by
  rw [clamp, if_neg (mt CartesianSelection.containsOrientation_iff.mp hout),
    Edit.applyTo_bind, Edit.applyTo_get]
  dsimp only
  rw [Edit.applyTo_bind, Edit.applyTo_require, State.assertFilled_eq_ok hs]
  rfl

omit [Scalar α] in
theorem CartesianState.read_vector (s : CartesianState α) (field : VectorField) :
    s.read field.selection = (s.values.vector field).toList := by
  rw [read, field.fields_selection, CartesianValues.read, List.flatMap_singleton]

theorem CartesianState.write_vector (s : CartesianState α) (field : VectorField) (v : Vector3 α) :
    (write field.selection v.toList).applyTo s = (.ok (), s.setVector field v) := by
  have hsize : v.toList.length = field.selection.size := by
    cases field <;> rfl
  refine write_eq_ok_iff.mpr ⟨hsize, s.values.setVector field v, ?_, rfl⟩
  rw [field.fields_selection]
  exact (CartesianValues.write_vector field v [] s.values).trans (CartesianValues.write_nil _ _)

/-- A bound on a single vector. -/
theorem CartesianState.clamp_vector (hs : s.empty = false) (field : VectorField) :
    (clamp bound field.selection ratio).applyTo s =
      (.ok (), s.setVector field ((s.values.vector field).limited bound ratio)) := by
  rw [clamp_applyTo hs (by simp), read_vector, ← write_vector]
  rfl

end Clamp

namespace CartesianScrew

section Parts
variable {α β : Type} {kind : ScrewKind} (p : CartesianScrew α kind) (v : Vector3 α)

theorem linear_setLinear : linear (setLinear p v) = v := by
  cases kind <;> rfl

theorem linear_setAngular : linear (setAngular p v) = linear p := by
  cases kind <;> rfl

theorem angular_setLinear : angular (setLinear p v) = angular p := by
  cases kind <;> rfl

theorem angular_setAngular : angular (setAngular p v) = v := by
  cases kind <;> rfl

variable {p} in
/-- Setting its own vectors again does not change a filled screw. -/
theorem setAngular_setLinear_self (hp : p.general.empty = false) :
    setAngular (setLinear p (linear p)) (angular p) = p := by
  have hlinear : setLinear p (linear p) = p :=
    congrArg CartesianProjection.mk (CartesianState.setVector_self hp kind.linear)
  rw [hlinear]
  exact congrArg CartesianProjection.mk (CartesianState.setVector_self hp kind.angular)

variable (f : α → β)

theorem linear_mapNumbers : linear (p.mapNumbers f) = (linear p).mapNumbers f :=
  CartesianValues.vector_mapNumbers ..

theorem angular_mapNumbers : angular (p.mapNumbers f) = (angular p).mapNumbers f :=
  CartesianValues.vector_mapNumbers ..

theorem setLinear_mapNumbers :
    setLinear (p.mapNumbers f) (v.mapNumbers f) = (setLinear p v).mapNumbers f :=
  congrArg CartesianProjection.mk (CartesianState.setVector_mapNumbers ..)

theorem setAngular_mapNumbers :
    setAngular (p.mapNumbers f) (v.mapNumbers f) = (setAngular p v).mapNumbers f :=
  congrArg CartesianProjection.mk (CartesianState.setVector_mapNumbers ..)

end Parts

section Limited
variable {α : Type} [Scalar α] {kind : ScrewKind}

/-- The screw with both vectors bounded. -/
def limited (limits : CartesianLimits α) (p : CartesianScrew α kind) : CartesianScrew α kind :=
  setAngular (setLinear p ((linear p).limited limits.maxLinear limits.linearRatio))
    ((angular p).limited limits.maxAngular limits.angularRatio)

variable {p : CartesianScrew α kind}

theorem linear_limited (limits : CartesianLimits α) :
    linear (limited limits p) = (linear p).limited limits.maxLinear limits.linearRatio := by
  rw [limited, linear_setAngular, linear_setLinear]

theorem angular_limited (limits : CartesianLimits α) :
    angular (limited limits p) = (angular p).limited limits.maxAngular limits.angularRatio := by
  rw [limited, angular_setAngular]

theorem toSpatialState_limited (hp : p.general.empty = false) (limits : CartesianLimits α) :
    (limited limits p).general.toSpatialState = p.general.toSpatialState := by
  change { p.general.toSpatialState with empty := false } = p.general.toSpatialState
  rw [← hp]

theorem vector_limited_of_ne {field : VectorField} (hlinear : field ≠ kind.linear)
    (hangular : field ≠ kind.angular) (limits : CartesianLimits α) :
    (limited limits p).general.values.vector field = p.general.values.vector field := by
  exact (CartesianValues.vector_setVector_of_ne hangular _ _).trans
    (CartesianValues.vector_setVector_of_ne hlinear _ _)

theorem clamp_applyTo (hp : p.general.empty = false) (limits : CartesianLimits α) :
    (clamp limits).applyTo p = (.ok (), limited limits p) := by
  rw [clamp, Edit.applyTo_bind, CartesianProjection.lift, Edit.applyTo_within,
    CartesianState.clamp_vector hp]
  dsimp only
  rw [CartesianProjection.lift, Edit.applyTo_within, CartesianState.clamp_vector rfl, limited,
    ← angular_setLinear p]
  rfl

theorem clampWith_applyTo (hp : p.general.empty = false) {limits : CartesianLimits α}
    (hlimits : limits.validate = .ok ()) :
    (clampWith limits).applyTo p = (.ok (), limited limits p) := by
  rw [clampWith, Edit.applyTo_bind, Edit.applyTo_require, hlimits]
  exact clamp_applyTo hp limits

end Limited

section Real
open PartialReal (defined)
variable {kind : ScrewKind} {limits : CartesianLimits ℝ} {p : CartesianScrew ℝ kind}

theorem limited_limited (hlimits : limits.validate = .ok ()) :
    limited limits (limited limits p) = limited limits p := by
  obtain ⟨hlinear, hangular⟩ := CartesianLimits.validate_eq_ok_iff.mp hlimits
  rw [limited, linear_limited, angular_limited, Vector3.limited_limited _ hlinear,
    Vector3.limited_limited _ hangular, ← linear_limited, ← angular_limited]
  exact setAngular_setLinear_self rfl

variable (p) in
theorem limited_mapNumbers_iff :
    limited (limits.mapNumbers defined) (p.mapNumbers defined) =
        (limited limits p).mapNumbers defined ↔
      ((linear p).mapNumbers defined).limited (defined limits.maxLinear)
          (defined limits.linearRatio) =
        ((linear p).limited limits.maxLinear limits.linearRatio).mapNumbers defined ∧
      ((angular p).mapNumbers defined).limited (defined limits.maxAngular)
          (defined limits.angularRatio) =
        ((angular p).limited limits.maxAngular limits.angularRatio).mapNumbers defined := by
  constructor
  · intro h
    have hlinear := congrArg linear h
    have hangular := congrArg angular h
    rw [linear_limited, linear_mapNumbers, linear_mapNumbers, linear_limited] at hlinear
    rw [angular_limited, angular_mapNumbers, angular_mapNumbers, angular_limited] at hangular
    exact ⟨hlinear, hangular⟩
  · rintro ⟨hlinear, hangular⟩
    rw [limited, limited, linear_mapNumbers, angular_mapNumbers, CartesianLimits.mapNumbers,
      hlinear, hangular, setLinear_mapNumbers, setAngular_mapNumbers]

end Real
end CartesianScrew

open PartialReal (defined) in
/-- Bounding a filled screw by accepted limits succeeds. Each of the two vectors is multiplied by a
number between zero and one: its norm does not exceed the maximum and is not in the dead zone, unless
it is zero, and a vector that was there already stays. Bounding the screw again changes nothing. No
divisor is zero, and all other fields, the name, the frame, the tag and the timestamp stay. -/
theorem screws_are_bounded {kind : ScrewKind} (p : CartesianScrew ℝ kind)
    (limits : CartesianLimits ℝ) (hp : p.general.empty = false)
    (hlimits : limits.validate = .ok ()) :
    ∃ q : CartesianScrew ℝ kind,
      (CartesianScrew.clampWith limits).applyTo p = (.ok (), q) ∧
      Vector3.Limited limits.maxLinear limits.linearRatio
        (CartesianScrew.linear p) (CartesianScrew.linear q) ∧
      Vector3.Limited limits.maxAngular limits.angularRatio
        (CartesianScrew.angular p) (CartesianScrew.angular q) ∧
      (CartesianScrew.clampWith limits).applyTo q = (.ok (), q) ∧
      (CartesianScrew.clampWith (limits.mapNumbers defined)).applyTo
        (p.mapNumbers defined) = (.ok (), q.mapNumbers defined) ∧
      q.general.toSpatialState = p.general.toSpatialState ∧
      q.general.values.orientation = p.general.values.orientation ∧
      ∀ field, field ≠ kind.linear → field ≠ kind.angular →
        q.general.values.vector field = p.general.values.vector field := by
  obtain ⟨hlinear, hangular⟩ := CartesianLimits.validate_eq_ok_iff.mp hlimits
  have hdefined : (limits.mapNumbers defined).validate = .ok () :=
    CartesianLimits.validate_eq_ok_iff.mpr
      ⟨accepted_defined_iff.mpr hlinear, accepted_defined_iff.mpr hangular⟩
  refine ⟨_, CartesianScrew.clampWith_applyTo hp hlimits, ?_, ?_, ?_, ?_, ?_, rfl, ?_⟩
  · rw [CartesianScrew.linear_limited]
    exact Vector3.Limited.of_accepted _ hlinear
  · rw [CartesianScrew.angular_limited]
    exact Vector3.Limited.of_accepted _ hangular
  · rw [CartesianScrew.clampWith_applyTo rfl hlimits, CartesianScrew.limited_limited hlimits]
  · have hmapped : (p.mapNumbers defined).general.empty = false := hp
    have hlimited := (CartesianScrew.limited_mapNumbers_iff p).mpr
      ⟨Vector3.limited_defined (.inl (accepted_iff.mp hlinear).1),
        Vector3.limited_defined (.inl (accepted_iff.mp hangular).1)⟩
    rw [CartesianScrew.clampWith_applyTo hmapped hdefined, hlimited]
  · exact CartesianScrew.toSpatialState_limited hp limits
  · intro field hlinear hangular
    exact CartesianScrew.vector_limited_of_ne hlinear hangular limits

theorem screws_are_bounded_fast :
    let twist : CartesianTwist ℝ := .ofParts .twist "arm" ⟨3, 0, 4⟩ ⟨0, 0, 1⟩ "base" ⟨0⟩
    let limits : CartesianLimits ℝ := ⟨2, 1, 1 / 2, 1 / 2⟩
    twist.general.empty = false ∧ limits.validate = .ok () ∧
      ∃ slower : CartesianTwist ℝ,
        (CartesianScrew.clampWith limits).applyTo twist = (.ok (), slower) ∧
        (CartesianScrew.linear slower).norm ≤ 2 ∧ CartesianScrew.angular slower = ⟨0, 0, 1⟩ ∧
        (CartesianScrew.clampWith limits).applyTo slower = (.ok (), slower) := by
  intro twist limits
  have hlimits : limits.validate = .ok () := by
    rw [CartesianLimits.validate_eq_ok_iff, accepted_iff, accepted_iff]
    norm_num [limits]
  have hnorm : (CartesianScrew.angular twist).norm = 1 := by
    have hangular : CartesianScrew.angular twist = ⟨0, 0, 1⟩ := rfl
    norm_num [hangular, Vector3.norm, Vector3.dot]
  obtain ⟨slower, hclamp, hlinear, hangular, hagain, -⟩ :=
    screws_are_bounded twist limits rfl hlimits
  refine ⟨rfl, hlimits, slower, hclamp, hlinear.norm_le, ?_, hagain⟩
  exact hangular.unchanged (by norm_num [hnorm, limits]) hnorm.le

end Kinematics
