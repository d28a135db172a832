import Kinematics.Proofs.Clamp
import Kinematics.Proofs.Limits
import Kinematics.Joint.Projection
import Kinematics.Proofs.Joint.Filled
import Kinematics.Proofs.Joint.Layout

/-!
# Bounds on joints

Every selected number is bounded by itself, with a bound and a dead zone of its own. Bounding all
numbers alike takes the same bound and the same dead zone for each of them.
-/

namespace Kinematics

/-- The numbers, each bounded by itself. -/
def limitedEach {α : Type} [Scalar α] (bounds ratios xs : List α) : List α :=
  List.zipWith (fun x (bound, ratio) => (ClampAction.of (Scalar.abs x) bound ratio).apply x) xs
    (bounds.zip ratios)

/-- The number under a bound that is not negative: zero in the dead zone, and otherwise of the same
sign and at most as large as the bound. -/
noncomputable def clipped (bound ratio x : ℝ) : ℝ :=
  if ratio ≠ 0 ∧ |x| < ratio * bound then 0 else SignType.sign x * min |x| bound

section Numbers
variable {bound ratio : ℝ} {bounds ratios : List ℝ}

theorem apply_of_abs (hbound : 0 ≤ bound) (ratio x : ℝ) :
    (ClampAction.of |x| bound ratio).apply x = clipped bound ratio x := by
  rw [ClampAction.apply_eq, ClampAction.factor_of, clipped]
  split_ifs with hnoise hlarge
  · exact mul_zero x
  · have hne : |x| ≠ 0 := (hbound.trans_lt hlarge).ne'
    calc x * (bound / |x|)
        = SignType.sign x * |x| * (bound / |x|) := by rw [sign_mul_abs]
      _ = SignType.sign x * min |x| bound := by
        rw [min_eq_right hlarge.le, mul_assoc, mul_div_cancel₀ bound hne]
  · rw [min_eq_left (not_lt.mp hlarge), sign_mul_abs, mul_one]

theorem clipped_clipped (h : Accepted bound ratio) (x : ℝ) :
    clipped bound ratio (clipped bound ratio x) = clipped bound ratio x := by
  obtain ⟨hbound, -, hratio⟩ := accepted_iff.mp h
  have hfactor : (ClampAction.of |x| bound ratio).factor ∈ Set.Icc 0 1 :=
    ClampAction.factor_mem_Icc (abs_nonneg x) (.inl hbound)
  have habs : |(ClampAction.of |x| bound ratio).apply x| =
      |x| * (ClampAction.of |x| bound ratio).factor := by
    rw [ClampAction.apply_eq, abs_mul, abs_of_nonneg hfactor.1]
  rw [← apply_of_abs hbound, ← apply_of_abs hbound, habs, ClampAction.apply_eq,
    ClampAction.apply_eq]
  exact ClampAction.factor_mul_factor (abs_nonneg x) hbound hratio abs_eq_zero.mp

/-- Every number is clipped under bounds that are not negative. -/
theorem limitedEach_eq (h : ∀ pair ∈ bounds.zip ratios, Accepted pair.1 pair.2) (xs : List ℝ) :
    limitedEach bounds ratios xs =
      List.zipWith (fun x (bound, ratio) => clipped bound ratio x) xs (bounds.zip ratios) := by
  rw [limitedEach, ← List.map_uncurry_zip_eq_zipWith, ← List.map_uncurry_zip_eq_zipWith]
  apply List.map_congr_left
  rintro ⟨x, pair⟩ hmem
  exact apply_of_abs (accepted_iff.mp (h pair (List.of_mem_zip hmem).2)).1 pair.2 x

theorem limitedEach_limitedEach (h : ∀ pair ∈ bounds.zip ratios, Accepted pair.1 pair.2)
    (xs : List ℝ) :
    limitedEach bounds ratios (limitedEach bounds ratios xs) = limitedEach bounds ratios xs := by
  rw [limitedEach_eq h, limitedEach_eq h]
  generalize bounds.zip ratios = pairs at h
  induction xs generalizing pairs with
  | nil => rfl
  | cons x xs ih =>
    cases pairs with
    | nil => rfl
    | cons pair pairs =>
      obtain ⟨hpair, hrest⟩ := List.forall_mem_cons.mp h
      exact congrArg₂ List.cons (clipped_clipped hpair x) (ih pairs hrest)

end Numbers

theorem length_limitedEach {α : Type} [Scalar α] {bounds ratios xs : List α}
    (hbounds : bounds.length = xs.length) (hratios : ratios.length = xs.length) :
    (limitedEach bounds ratios xs).length = xs.length := by
  rw [limitedEach, List.length_zipWith, List.length_zip, hbounds, hratios, Nat.min_self,
    Nat.min_self]

/-- Numbers bounded alike. -/
theorem limitedEach_replicate {α : Type} [Scalar α] (bound ratio : α) (xs : List α) :
    limitedEach (List.replicate xs.length bound) (List.replicate xs.length ratio) xs =
      xs.map fun x => (ClampAction.of (Scalar.abs x) bound ratio).apply x := by
  rw [limitedEach, List.zip_replicate']
  induction xs with
  | nil => rfl
  | cons x xs ih => exact congrArg _ ih

/-- A selection of one field has one number per joint. -/
theorem JointField.size_selection (field : JointField) (joints : Nat) :
    field.selection.size joints = joints := by
  rw [JointSelection.size, field.fields_selection, List.length_singleton, Nat.one_mul]

namespace JointState
variable {α : Type} [Scalar α] {s : JointState α} {bounds ratios : List α}
  {selection : JointSelection} {field : JointField}

/-- The state with the selected numbers bounded. -/
def limited (s : JointState α) (bounds : List α) (selection : JointSelection) (ratios : List α) :
    JointState α :=
  s.setValues (s.values.write s.size selection.fields
    (limitedEach bounds ratios (s.read selection)))

section Fitting
variable (hsized : s.Sized) (hbounds : bounds.length = selection.size s.size)
  (hratios : ratios.length = selection.size s.size)
include hsized hbounds hratios

theorem length_limitedEach_read :
    (limitedEach bounds ratios (s.read selection)).length = selection.size s.size := by
  have hread : (s.read selection).length = selection.size s.size :=
    JointValues.Sized.length_read hsized selection
  exact (length_limitedEach (hbounds.trans hread.symm) (hratios.trans hread.symm)).trans hread

theorem clampEach_applyTo (hs : s.empty = false) :
    (clampEach bounds selection ratios).applyTo s =
      (.ok (), s.limited bounds selection ratios) := by
  rw [clampEach, Edit.applyTo_bind, Edit.applyTo_get]
  dsimp only
  rw [Edit.applyTo_bind, Edit.applyTo_require, State.assertFilled_eq_ok hs]
  dsimp only
  rw [if_neg (not_not.mpr hbounds), if_neg (not_not.mpr hratios)]
  exact write_applyTo (length_limitedEach_read hsized hbounds hratios)

theorem read_limited : (s.limited bounds selection ratios).read selection =
    limitedEach bounds ratios (s.read selection) :=
  JointValues.read_write (length_limitedEach_read hsized hbounds hratios) selection.nodup_fields _

theorem sized_limited : (s.limited bounds selection ratios).Sized :=
  JointValues.Sized.write hsized (length_limitedEach_read hsized hbounds hratios)

end Fitting

theorem clampEach_refused (hs : s.empty = false)
    (h : ¬(bounds.length = selection.size s.size ∧ ratios.length = selection.size s.size)) :
    ∃ e, (clampEach bounds selection ratios).applyTo s = (.error e, s) ∧
      e.kind = .incompatibleSize := by
  rw [clampEach, Edit.applyTo_bind, Edit.applyTo_get]
  dsimp only
  rw [Edit.applyTo_bind, Edit.applyTo_require, State.assertFilled_eq_ok hs]
  dsimp only
  by_cases hbounds : bounds.length = selection.size s.size
  · have hratios : ratios.length ≠ selection.size s.size := fun hratios => h ⟨hbounds, hratios⟩
    rw [if_neg (not_not.mpr hbounds), if_pos hratios]
    exact ⟨_, Edit.applyTo_bind .., rfl⟩
  · rw [if_pos hbounds]
    exact ⟨_, Edit.applyTo_bind .., rfl⟩

theorem clampEach_eq_ok_iff (hsized : s.Sized) {t : JointState α} :
    (clampEach bounds selection ratios).applyTo s = (.ok (), t) ↔
      (s.empty = false ∧ bounds.length = selection.size s.size ∧
        ratios.length = selection.size s.size) ∧ t = s.limited bounds selection ratios := by
  constructor
  · intro h
    have hs : s.empty = false := by
      obtain ⟨e, he⟩ | ⟨-, -, hs, -⟩ := clampEach_settles_filled s bounds selection ratios
      · rw [he] at h
        cases h
      · exact hs
    by_cases hfits : bounds.length = selection.size s.size ∧ ratios.length = selection.size s.size
    · rw [clampEach_applyTo hsized hfits.1 hfits.2 hs] at h
      cases h
      exact ⟨⟨hs, hfits⟩, rfl⟩
    · obtain ⟨e, he, -⟩ := clampEach_refused hs hfits
      rw [he] at h
      cases h
  · rintro ⟨⟨hs, hbounds, hratios⟩, rfl⟩
    exact clampEach_applyTo hsized hbounds hratios hs

theorem exists_clampEach_iff (hsized : s.Sized) :
    (∃ t, (clampEach bounds selection ratios).applyTo s = (.ok (), t)) ↔
      s.empty = false ∧ bounds.length = selection.size s.size ∧
        ratios.length = selection.size s.size := by
  simp only [clampEach_eq_ok_iff hsized, exists_eq_right]

theorem clamp_applyTo (bound : α) (selection : JointSelection) (ratio : α) (s : JointState α) :
    (clamp bound selection ratio).applyTo s =
      (clampEach (List.replicate (selection.size s.size) bound) selection
        (List.replicate (selection.size s.size) ratio)).applyTo s := by
  rw [clamp, Edit.applyTo_bind, Edit.applyTo_get]

section Field
variable (hsized : s.Sized) (hbounds : bounds.length = s.size) (hratios : ratios.length = s.size)
include hsized hbounds hratios

/-- A bound on a single field. -/
theorem limited_field : s.limited bounds field.selection ratios =
    s.setValues (s.values.set field (limitedEach bounds ratios (s.values.get field))) := by
  have hsize := field.size_selection s.size
  have hlength := length_limitedEach_read hsized (hbounds.trans hsize.symm)
    (hratios.trans hsize.symm)
  rw [limited, read, field.fields_selection, JointValues.read_singleton]
  rw [read, field.fields_selection, JointValues.read_singleton, hsize] at hlength
  rw [JointValues.write_singleton _ _ hlength]

theorem get_limited_self : (s.limited bounds field.selection ratios).values.get field =
    limitedEach bounds ratios (s.values.get field) := by
  rw [limited_field hsized hbounds hratios]
  exact JointValues.get_set_self ..

theorem get_limited_of_ne {other : JointField} (h : other ≠ field) :
    (s.limited bounds field.selection ratios).values.get other = s.values.get other := by
  rw [limited_field hsized hbounds hratios]
  exact JointValues.get_set_of_ne h _

end Field

/-- A bounded field is left alone by the same limits. -/
theorem limited_limited {s : JointState ℝ} {bounds ratios : List ℝ} (hsized : s.Sized)
    (hbounds : bounds.length = s.size) (hratios : ratios.length = s.size)
    (haccepted : ∀ pair ∈ bounds.zip ratios, Accepted pair.1 pair.2) :
    (s.limited bounds field.selection ratios).limited bounds field.selection ratios =
      s.limited bounds field.selection ratios := by
  have hsize := field.size_selection s.size
  have hlimited : (s.limited bounds field.selection ratios).Sized :=
    sized_limited hsized (hbounds.trans hsize.symm) (hratios.trans hsize.symm)
  have hget : (s.limited bounds field.selection ratios).values.get field =
      limitedEach bounds ratios (s.values.get field) := get_limited_self hsized hbounds hratios
  rw [limited_field hlimited hbounds hratios, hget, limitedEach_limitedEach haccepted, ← hget,
    JointValues.set_get_self]
  rfl

end JointState

namespace JointProjection
variable {α : Type} {field : JointField} {p : JointProjection α field} [Scalar α]

/-- The projection with the numbers of its field bounded. -/
def limited (p : JointProjection α field) (bounds ratios : List α) : JointProjection α field :=
  ⟨p.general.limited bounds field.selection ratios⟩

section Fitting
variable {bounds ratios : List α} (hsized : p.general.Sized)
  (hbounds : bounds.length = p.general.size) (hratios : ratios.length = p.general.size)
include hsized hbounds hratios

theorem clampEach_applyTo (hp : p.general.empty = false) :
    (clampEach bounds ratios).applyTo p = (.ok (), p.limited bounds ratios) := by
  have hsize := field.size_selection p.general.size
  exact lift_eq (JointState.clampEach_applyTo hsized (hbounds.trans hsize.symm)
    (hratios.trans hsize.symm) hp)

theorem sized_limited : (p.limited bounds ratios).general.Sized := by
  have hsize := field.size_selection p.general.size
  exact JointState.sized_limited hsized (hbounds.trans hsize.symm) (hratios.trans hsize.symm)

end Fitting

theorem toState_limited (hp : p.general.empty = false) (bounds ratios : List α) :
    (p.limited bounds ratios).general.toState = p.general.toState := by
  change { p.general.toState with empty := false } = p.general.toState
  rw [← hp]

theorem clampEach_refused {bounds ratios : List α} (hp : p.general.empty = false)
    (h : bounds.length ≠ p.general.size) :
    ∃ e, (clampEach bounds ratios).applyTo p = (.error e, p) ∧ e.kind = .incompatibleSize := by
  have hunfit : ¬(bounds.length = field.selection.size p.general.size ∧
      ratios.length = field.selection.size p.general.size) := by
    rw [field.size_selection]
    exact fun hfits => h hfits.1
  obtain ⟨e, he, hkind⟩ := JointState.clampEach_refused hp hunfit
  exact ⟨e, lift_eq he, hkind⟩

theorem clamp_applyTo (bound ratio : α) (p : JointProjection α field) :
    (clamp bound ratio).applyTo p =
      (clampEach (List.replicate p.general.size bound)
        (List.replicate p.general.size ratio)).applyTo p := by
  rw [clamp, clampEach, lift, lift, Edit.applyTo_within, Edit.applyTo_within,
    JointState.clamp_applyTo, field.size_selection]

/-- The field after a bound on all its numbers alike. -/
theorem clamp_eq_ok (hp : p.general.empty = false) (hsized : p.general.Sized) (bound ratio : α) :
    (clamp bound ratio).applyTo p =
      (.ok (), ⟨p.general.setValues (p.general.values.set field
        ((p.general.values.get field).map fun x =>
          (ClampAction.of (Scalar.abs x) bound ratio).apply x))⟩) := by
  have hlength (x : α) : (List.replicate p.general.size x).length = p.general.size :=
    List.length_replicate
  rw [clamp_applyTo, clampEach_applyTo hsized (hlength bound) (hlength ratio) hp, limited,
    JointState.limited_field hsized (hlength bound) (hlength ratio), ← hsized field,
    limitedEach_replicate]

theorem clampWith_applyTo {limits : JointLimits α} (hlimits : limits.validate = .ok ())
    (p : JointProjection α field) :
    (clampWith limits).applyTo p = (clampEach limits.maxima limits.ratios).applyTo p := by
  rw [clampWith, Edit.applyTo_bind, Edit.applyTo_require, hlimits]

end JointProjection

/-- Bounding the field of a filled projection by accepted limits succeeds exactly if they cover as
many joints. Then every number is clipped by its own maximum and ratio. Bounding the projection again
changes nothing, and the names, the tag, the timestamp and the other fields stay. The bound on all
numbers alike is the one on each with constant lists, whatever is selected. -/
theorem joint_numbers_are_clipped :
    (∀ {field : JointField} (p : JointProjection ℝ field) (limits : JointLimits ℝ),
      p.general.empty = false → p.general.Sized → limits.validate = .ok () →
      (limits.size ≠ p.general.size → ∃ e,
        (JointProjection.clampWith limits).applyTo p = (.error e, p) ∧
          e.kind = .incompatibleSize) ∧
      (limits.size = p.general.size → ∃ q : JointProjection ℝ field,
        (JointProjection.clampWith limits).applyTo p = (.ok (), q) ∧
        q.general.values.get field =
          List.zipWith (fun x (bound, ratio) => clipped bound ratio x)
            (p.general.values.get field) (limits.maxima.zip limits.ratios) ∧
        q.general.Sized ∧
        (JointProjection.clampWith limits).applyTo q = (.ok (), q) ∧
        q.general.toState = p.general.toState ∧ q.general.names = p.general.names ∧
        ∀ other, other ≠ field → q.general.values.get other = p.general.values.get other)) ∧
    (∀ (s : JointState ℝ) (selection : JointSelection) (bound ratio : ℝ),
      (JointState.clamp bound selection ratio).applyTo s =
        (JointState.clampEach (List.replicate (selection.size s.size) bound) selection
          (List.replicate (selection.size s.size) ratio)).applyTo s ∧
      (s.empty = false → s.Sized → ∃ t,
        (JointState.clamp bound selection ratio).applyTo s = (.ok (), t) ∧
        (0 ≤ bound → t.read selection = (s.read selection).map (clipped bound ratio)))) ∧
    ∀ {field : JointField} (p : JointProjection ℝ field) (bound ratio : ℝ),
      (JointProjection.clamp bound ratio).applyTo p =
        (JointProjection.clampEach (List.replicate p.general.size bound)
          (List.replicate p.general.size ratio)).applyTo p := by
  refine ⟨fun {field} p limits hp hsized hlimits => ?_, fun s selection bound ratio => ?_,
    fun p bound ratio => JointProjection.clamp_applyTo bound ratio p⟩
  · obtain ⟨hratios, haccepted⟩ := JointLimits.validate_eq_ok_iff.mp hlimits
    simp only [JointProjection.clampWith_applyTo hlimits]
    refine ⟨JointProjection.clampEach_refused hp, ?_⟩
    intro (hmaxima : limits.maxima.length = p.general.size)
    have hratios := hratios.trans hmaxima
    have hlimited := JointProjection.sized_limited hsized hmaxima hratios
    refine ⟨p.limited limits.maxima limits.ratios,
      JointProjection.clampEach_applyTo hsized hmaxima hratios hp, ?_, hlimited, ?_,
      JointProjection.toState_limited hp _ _, rfl,
      fun other hne => JointState.get_limited_of_ne hsized hmaxima hratios hne⟩
    · exact (JointState.get_limited_self hsized hmaxima hratios).trans (limitedEach_eq haccepted _)
    · rw [JointProjection.clampEach_applyTo hlimited hmaxima hratios rfl]
      exact congrArg (fun s => (Except.ok (), JointProjection.mk s))
        (JointState.limited_limited hsized hmaxima hratios haccepted)
  · refine ⟨JointState.clamp_applyTo bound selection ratio s, fun hs hsized => ?_⟩
    have hlength (x : ℝ) :
        (List.replicate (selection.size s.size) x).length = selection.size s.size :=
      List.length_replicate
    rw [JointState.clamp_applyTo,
      JointState.clampEach_applyTo hsized (hlength bound) (hlength ratio) hs]
    refine ⟨_, rfl, fun hbound => ?_⟩
    rw [JointState.read_limited hsized (hlength bound) (hlength ratio),
      ← JointValues.Sized.length_read hsized selection]
    exact (limitedEach_replicate bound ratio _).trans
      (List.map_congr_left fun x _ => apply_of_abs hbound ratio x)

theorem joint_numbers_are_clipped_arm :
    let arm : JointVelocities ℝ := (JointProjection.zero .velocities "arm" ["shoulder", "elbow"]
      ⟨0⟩).map fun s => s.setValues (s.values.set .velocities [-3, 1 / 2])
    let limits : JointLimits ℝ := .uniform 2 2 (1 / 2)
    let more : JointLimits ℝ := .uniform 3 2 (1 / 2)
    (∃ q : JointVelocities ℝ, (JointProjection.clampWith limits).applyTo arm = (.ok (), q) ∧
      q.general.values.get .velocities = [-2, 0] ∧
      (JointProjection.clampWith limits).applyTo q = (.ok (), q)) ∧
    (∃ e, (JointProjection.clampWith more).applyTo arm = (.error e, arm) ∧
      e.kind = .incompatibleSize) ∧
    ∃ t, (JointState.clamp 2 .all (1 / 2)).applyTo arm.general = (.ok (), t) := by
  intro arm limits more
  obtain ⟨hlimits, hall, -⟩ := joint_numbers_are_clipped
  have hsized : arm.general.Sized := by
    intro field
    cases field <;> rfl
  have huniform (joints : ℕ) : (JointLimits.uniform joints (2 : ℝ) (1 / 2)).validate = .ok () := by
    rw [JointLimits.validate_eq_ok_iff, JointLimits.uniform, List.length_replicate,
      List.length_replicate, List.zip_replicate']
    refine ⟨rfl, fun pair hpair => ?_⟩
    rw [List.eq_of_mem_replicate hpair, accepted_iff]
    norm_num
  obtain ⟨q, hq, hget, -, hagain, -⟩ := (hlimits arm limits rfl hsized (huniform 2)).2 rfl
  obtain ⟨t, ht, -⟩ := (hall arm.general .all 2 (1 / 2)).2 rfl hsized
  refine ⟨⟨q, hq, hget.trans ?_, hagain⟩,
    (hlimits arm more rfl hsized (huniform 3)).1 (by decide), t, ht⟩
  have hlarge : clipped 2 (1 / 2) (-3) = -2 := by
    norm_num [clipped]
  have hnoise : clipped 2 (1 / 2) (1 / 2) = 0 := by
    norm_num [clipped, abs_of_pos]
  exact congrArg₂ (fun x y => [x, y]) hlarge hnoise

end Kinematics
