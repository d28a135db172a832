import Kinematics.Proofs.Cartesian.Clamp
import Kinematics.Proofs.Cartesian.Filled
import Kinematics.Proofs.Joint.Clamp

/-!
# Bounds attenuate

A bound that is not checked first may be negative. It is shown exactly when bounding makes numbers
no larger, keeps their direction and divides by no zero.
-/

namespace Kinematics
open PartialReal (defined undefined)

namespace CartesianValues
variable {α β : Type} (f : α → β) {fields : List CartesianField}

theorem read_mapNumbers (v : CartesianValues α) (fields : List CartesianField) :
    (v.mapNumbers f).read fields = (v.read fields).map f := by
  rw [read_eq_flatMap, read_eq_flatMap, List.map_flatMap]
  apply List.flatMap_congr
  intro field _
  cases field with
  | orientation => rfl
  | vector field => rw [numbers, numbers, vector_mapNumbers, Vector3.toList_mapNumbers]

theorem write_mapNumbers [Scalar α] [Scalar β] (hout : .orientation ∉ fields) {data : List α}
    (hlength : data.length = (fields.map CartesianField.size).sum) {u v : CartesianValues α}
    (h : write fields data v = .ok u) :
    write fields (data.map f) (v.mapNumbers f) = .ok (u.mapNumbers f) := by
  induction fields generalizing data v with
  | nil =>
    rw [write_nil] at h
    cases h
    exact write_nil _ _
  | cons field fields ih =>
    cases field with
    | orientation => exact absurd List.mem_cons_self hout
    | vector field =>
      rw [List.map_cons, List.sum_cons] at hlength
      obtain ⟨p, rest, rfl, hrest⟩ := exists_vector_append hlength
      rw [write_vector] at h
      rw [List.map_append, ← Vector3.toList_mapNumbers, write_vector, setVector_mapNumbers]
      exact ih (fun hin => hout (List.mem_cons_of_mem _ hin)) hrest h

end CartesianValues

namespace CartesianState
variable {α : Type} [Scalar α] {s t : CartesianState α} {selection : CartesianSelection}
  {bound ratio : α}

theorem length_limited_read :
    (limited bound ratio (s.read selection)).length = selection.size := by
  rw [limited, List.length_map, length_read]

theorem clamp_eq_ok_iff :
    (clamp bound selection ratio).applyTo s = (.ok (), t) ↔
      s.empty = false ∧ .orientation ∉ selection.fields ∧
        CartesianValues.write selection.fields (limited bound ratio (s.read selection)) s.values =
          .ok t.values ∧ t = s.setValues t.values := by
  constructor
  · intro h
    have hs : s.empty = false := by
      obtain ⟨e, he⟩ | ⟨-, -, hs, -⟩ := clamp_settles_filled s bound selection ratio
      · rw [he] at h
        cases h
      · exact hs
    have hout : .orientation ∉ selection.fields := by
      intro hin
      rw [clamp, if_pos (CartesianSelection.containsOrientation_iff.mpr hin), Edit.applyTo_bind,
        Edit.applyTo_throw] at h
      cases h
    rw [clamp_applyTo hs hout, write_eq_ok_iff] at h
    obtain ⟨-, values, hvalues, rfl⟩ := h
    exact ⟨hs, hout, hvalues, rfl⟩
  · rintro ⟨hs, hout, hvalues, ht⟩
    rw [clamp_applyTo hs hout, write_eq_ok_iff]
    exact ⟨length_limited_read, t.values, hvalues, ht⟩

theorem exists_clamp_iff : (∃ t, (clamp bound selection ratio).applyTo s = (.ok (), t)) ↔
    s.empty = false ∧ .orientation ∉ selection.fields := by
  simp only [clamp_eq_ok_iff]
  constructor
  · rintro ⟨t, hs, hout, -⟩
    exact ⟨hs, hout⟩
  · rintro ⟨hs, hout⟩
    obtain ⟨values, hvalues⟩ := CartesianValues.exists_write_eq_ok hout
      (limited bound ratio (s.read selection)) s.values
    exact ⟨s.setValues values, hs, hout, hvalues, rfl⟩

theorem read_clamped (h : (clamp bound selection ratio).applyTo s = (.ok (), t)) :
    t.read selection = limited bound ratio (s.read selection) := by
  obtain ⟨-, hout, hvalues, -⟩ := clamp_eq_ok_iff.mp h
  exact CartesianValues.read_write (length_limited_read.trans selection.size_eq_sum)
    selection.nodup_fields hout hvalues

end CartesianState

namespace CartesianState
variable {s t : CartesianState ℝ} {selection : CartesianSelection} {bound ratio : ℝ}

/-- The run over numbers with an undefined value ends in the same numbers exactly if bounding the
selected ones does. -/
theorem clamp_defined_iff (h : (clamp bound selection ratio).applyTo s = (.ok (), t)) :
    (clamp (defined bound) selection (defined ratio)).applyTo (s.mapNumbers defined) =
        (.ok (), t.mapNumbers defined) ↔
      limited (defined bound) (defined ratio) ((s.read selection).map defined) =
        (limited bound ratio (s.read selection)).map defined := by
  have hread (s : CartesianState ℝ) :
      (s.mapNumbers defined).read selection = (s.read selection).map defined :=
    CartesianValues.read_mapNumbers defined s.values selection.fields
  constructor
  · intro hdefined
    rw [← read_clamped h, ← hread, ← hread]
    exact (read_clamped hdefined).symm
  · intro hdefined
    obtain ⟨hs, hout, hvalues, ht⟩ := clamp_eq_ok_iff.mp h
    refine clamp_eq_ok_iff.mpr ⟨hs, hout, ?_, congrArg (mapNumbers defined) ht⟩
    rw [hread, hdefined]
    exact CartesianValues.write_mapNumbers defined hout
      (length_limited_read.trans selection.size_eq_sum) hvalues

/-- A bound on a selection is attenuating and defined exactly if it covers the norm. -/
theorem clamp_attenuates_iff (h : (clamp bound selection ratio).applyTo s = (.ok (), t)) :
    (clamp (defined bound) selection (defined ratio)).applyTo (s.mapNumbers defined) =
        (.ok (), t.mapNumbers defined) ∧ Attenuates (s.read selection) (t.read selection) ↔
      Covers bound ratio (Scalar.norm (s.read selection)) := by
  have hpos : 0 < selection.size := by
    cases selection <;> decide
  have hne : s.read selection ≠ [] :=
    List.ne_nil_of_length_pos (hpos.trans_eq (s.length_read selection).symm)
  rw [clamp_defined_iff h, read_clamped h, limited_attenuates_iff bound ratio hne]

end CartesianState

theorem Vector3.limited_attenuates_iff (bound ratio : ℝ) (v : Vector3 ℝ) :
    (v.mapNumbers defined).limited (defined bound) (defined ratio) =
        (v.limited bound ratio).mapNumbers defined ∧
        Attenuates v.toList (v.limited bound ratio).toList ↔
      Covers bound ratio v.norm := by
  have hlist := Kinematics.limited_attenuates_iff bound ratio (List.cons_ne_nil v.x [v.y, v.z])
  rw [← norm_toList, ← toList_inj]
  exact hlist

namespace CartesianScrew
variable {kind : ScrewKind} {p : CartesianScrew ℝ kind} {limits : CartesianLimits ℝ}

/-- Both bounds on a screw are attenuating and defined exactly if each covers the norm of its
vector. -/
theorem clamp_attenuates_iff (hp : p.general.empty = false) :
    (clamp (limits.mapNumbers defined)).applyTo (p.mapNumbers defined) =
        (.ok (), (limited limits p).mapNumbers defined) ∧
        Attenuates (linear p).toList (linear (limited limits p)).toList ∧
        Attenuates (angular p).toList (angular (limited limits p)).toList ↔
      Covers limits.maxLinear limits.linearRatio (linear p).norm ∧
        Covers limits.maxAngular limits.angularRatio (angular p).norm := by
  have hmapped : (p.mapNumbers defined).general.empty = false := hp
  rw [clamp_applyTo hmapped, Prod.mk.injEq, and_iff_right rfl, limited_mapNumbers_iff,
    linear_limited, angular_limited, ← Vector3.limited_attenuates_iff,
    ← Vector3.limited_attenuates_iff]
  exact and_and_and_comm

end CartesianScrew

section Joints
variable {α β : Type}

def JointValues.mapNumbers (f : α → β) (v : JointValues α) : JointValues β :=
  .build fun field => (v.get field).map f

def JointState.mapNumbers (f : α → β) (s : JointState α) : JointState β :=
  { toState := s.toState, names := s.names, values := s.values.mapNumbers f }

def JointProjection.mapNumbers {field : JointField} (f : α → β) (p : JointProjection α field) :
    JointProjection β field :=
  ⟨p.general.mapNumbers f⟩

variable (f : α → β)

theorem JointValues.get_mapNumbers (v : JointValues α) (field : JointField) :
    (v.mapNumbers f).get field = (v.get field).map f := by
  rw [mapNumbers, get_build]

theorem JointValues.read_mapNumbers (v : JointValues α) (fields : List JointField) :
    (v.mapNumbers f).read fields = (v.read fields).map f := by
  rw [read, read, List.map_flatMap]
  exact List.flatMap_congr fun field _ => v.get_mapNumbers f field

theorem JointValues.write_mapNumbers (size : Nat) (fields : List JointField) (data : List α)
    (v : JointValues α) : (v.mapNumbers f).write size fields (data.map f) =
      (v.write size fields data).mapNumbers f := by
  induction fields generalizing data v with
  | nil => rfl
  | cons field fields ih =>
    have hset (xs : List α) :
        (v.mapNumbers f).set field (xs.map f) = (v.set field xs).mapNumbers f := by
      apply ext_get
      intro other
      rw [get_mapNumbers, set, set, get_build, get_build, get_mapNumbers]
      split <;> rfl
    rw [write, write, ← List.map_take, ← List.map_drop, hset, ih]

theorem JointState.Sized.mapNumbers {s : JointState α} (h : s.Sized) : (s.mapNumbers f).Sized := by
  intro field
  exact (congrArg List.length (s.values.get_mapNumbers f field)).trans
    ((List.length_map ..).trans (h field))

end Joints

section Numbers
variable {bounds ratios xs : List ℝ}

/-- Numbers that are bounded each by itself are weakened, and no divisor is zero, exactly if every
bound covers its number. -/
theorem limitedEach_weakens_iff (hbounds : bounds.length = xs.length)
    (hratios : ratios.length = xs.length) :
    limitedEach (bounds.map defined) (ratios.map defined) (xs.map defined) =
        (limitedEach bounds ratios xs).map defined ∧
        List.Forall₂ Weakens xs (limitedEach bounds ratios xs) ↔
      List.Forall₂ (fun x limit => Covers limit.1 limit.2 |x|) xs (bounds.zip ratios) := by
  have hpairs : (bounds.zip ratios).length = xs.length := by
    rw [List.length_zip, hbounds, hratios, Nat.min_self]
  rw [limitedEach, limitedEach, List.zip_map]
  generalize bounds.zip ratios = pairs at hpairs
  clear hbounds hratios
  induction xs generalizing pairs with
  | nil =>
    rw [List.length_eq_zero_iff.mp hpairs]
    exact iff_of_true ⟨rfl, .nil⟩ .nil
  | cons x xs ih =>
    obtain ⟨⟨bound, ratio⟩, pairs, rfl⟩ := List.exists_cons_of_length_eq_add_one hpairs
    have hrest := ih pairs (Nat.succ_inj.mp hpairs)
    rw [List.map_cons, List.map_cons, List.zipWith_cons_cons, List.zipWith_cons_cons,
      List.map_cons, List.cons.injEq, List.forall₂_cons, List.forall₂_cons]
    exact and_and_and_comm.trans (and_congr (apply_weakens_iff bound ratio x) hrest)

end Numbers

namespace JointState
variable {s t : JointState ℝ} {selection : JointSelection} {bounds ratios : List ℝ}

theorem read_mapNumbers_defined (s : JointState ℝ) (selection : JointSelection) :
    (s.mapNumbers defined).read selection = (s.read selection).map defined :=
  s.values.read_mapNumbers defined selection.fields

theorem clampEach_weakens_iff (hsized : s.Sized)
    (h : (clampEach bounds selection ratios).applyTo s = (.ok (), t)) :
    (clampEach (bounds.map defined) selection (ratios.map defined)).applyTo
        (s.mapNumbers defined) = (.ok (), t.mapNumbers defined) ∧
        List.Forall₂ Weakens (s.read selection) (t.read selection) ↔
      List.Forall₂ (fun x limit => Covers limit.1 limit.2 |x|) (s.read selection)
        (bounds.zip ratios) := by
  obtain ⟨⟨hs, hbounds, hratios⟩, rfl⟩ := (clampEach_eq_ok_iff hsized).mp h
  have hread : (s.read selection).length = selection.size s.size :=
    JointValues.Sized.length_read hsized selection
  have hbounds' : (bounds.map defined).length = selection.size (s.mapNumbers defined).size :=
    (List.length_map ..).trans hbounds
  have hratios' : (ratios.map defined).length = selection.size (s.mapNumbers defined).size :=
    (List.length_map ..).trans hratios
  rw [read_limited hsized hbounds hratios, ← limitedEach_weakens_iff (hbounds.trans hread.symm)
    (hratios.trans hread.symm), clampEach_applyTo (hsized.mapNumbers defined) hbounds' hratios' hs,
    Prod.mk.injEq, and_iff_right rfl]
  refine and_congr_left' ⟨fun hdefined => ?_, fun hdefined => ?_⟩
  · have hsame := congrArg (·.read selection) hdefined
    rwa [read_limited (hsized.mapNumbers defined) hbounds' hratios', read_mapNumbers_defined,
      read_mapNumbers_defined, read_limited hsized hbounds hratios] at hsame
  · rw [limited, read_mapNumbers_defined, hdefined]
    exact congrArg (s.mapNumbers defined).setValues (JointValues.write_mapNumbers ..)

theorem exists_clamp_iff (hsized : s.Sized) {bound ratio : ℝ} :
    (∃ t, (clamp bound selection ratio).applyTo s = (.ok (), t)) ↔ s.empty = false := by
  simp only [clamp_applyTo]
  rw [exists_clampEach_iff hsized, List.length_replicate, List.length_replicate]
  exact and_iff_left ⟨rfl, rfl⟩

theorem clamp_weakens_iff (hsized : s.Sized) {bound ratio : ℝ}
    (h : (clamp bound selection ratio).applyTo s = (.ok (), t)) :
    (clamp (defined bound) selection (defined ratio)).applyTo (s.mapNumbers defined) =
        (.ok (), t.mapNumbers defined) ∧
        List.Forall₂ Weakens (s.read selection) (t.read selection) ↔
      ∀ x ∈ s.read selection, Covers bound ratio |x| := by
  have hread : (s.read selection).length = selection.size s.size :=
    JointValues.Sized.length_read hsized selection
  have halike : List.Forall₂ (fun x limit => Covers limit.1 limit.2 |x|) (s.read selection)
      ((List.replicate (selection.size s.size) bound).zip
        (List.replicate (selection.size s.size) ratio)) ↔
      ∀ x ∈ s.read selection, Covers bound ratio |x| := by
    rw [List.zip_replicate', ← hread, ← List.map_const', List.forall₂_map_right_iff,
      List.forall₂_same]
  rw [clamp_applyTo] at h ⊢
  have heach := clampEach_weakens_iff hsized h
  rw [List.map_replicate, List.map_replicate] at heach
  exact heach.trans halike

end JointState

namespace JointProjection
variable {field : JointField} {p q : JointProjection ℝ field}

theorem exists_clampEach_iff (hsized : p.general.Sized) {bounds ratios : List ℝ} :
    (∃ q, (clampEach bounds ratios).applyTo p = (.ok (), q)) ↔
      p.general.empty = false ∧ bounds.length = p.general.size ∧
        ratios.length = p.general.size := by
  simp only [clampEach, lift_eq_ok_iff]
  rw [← field.size_selection p.general.size, ← JointState.exists_clampEach_iff hsized]
  constructor
  · rintro ⟨q, hq⟩
    exact ⟨q.general, hq⟩
  · rintro ⟨t, ht⟩
    exact ⟨⟨t⟩, ht⟩

theorem exists_clamp_iff (hsized : p.general.Sized) {bound ratio : ℝ} :
    (∃ q, (clamp bound ratio).applyTo p = (.ok (), q)) ↔ p.general.empty = false := by
  simp only [clamp_applyTo]
  rw [exists_clampEach_iff hsized, List.length_replicate, List.length_replicate]
  exact and_iff_left ⟨rfl, rfl⟩

theorem clampEach_weakens_iff (hsized : p.general.Sized) {bounds ratios : List ℝ}
    (h : (clampEach bounds ratios).applyTo p = (.ok (), q)) :
    (clampEach (bounds.map defined) (ratios.map defined)).applyTo (p.mapNumbers defined) =
        (.ok (), q.mapNumbers defined) ∧
        List.Forall₂ Weakens (p.general.read field.selection) (q.general.read field.selection) ↔
      List.Forall₂ (fun x limit => Covers limit.1 limit.2 |x|) (p.general.read field.selection)
        (bounds.zip ratios) := by
  rw [clampEach, lift_eq_ok_iff] at h ⊢
  exact JointState.clampEach_weakens_iff hsized h

theorem clamp_weakens_iff (hsized : p.general.Sized) {bound ratio : ℝ}
    (h : (clamp bound ratio).applyTo p = (.ok (), q)) :
    (clamp (defined bound) (defined ratio)).applyTo (p.mapNumbers defined) =
        (.ok (), q.mapNumbers defined) ∧
        List.Forall₂ Weakens (p.general.read field.selection) (q.general.read field.selection) ↔
      ∀ x ∈ p.general.read field.selection, Covers bound ratio |x| := by
  rw [clamp, lift_eq_ok_iff] at h ⊢
  exact JointState.clamp_weakens_iff hsized h

end JointProjection

/-- A bound is accepted on every filled state, but on no selection with the orientation in it. The
numbers are brought no farther from zero, keep their direction and are divided by no zero exactly if
each bound is not negative or the numbers are in its dead zone. -/
theorem bounding_attenuates_iff (bound ratio : ℝ) (bounds ratios : List ℝ)
    (limits : CartesianLimits ℝ) :
    (∀ (s : CartesianState ℝ) (selection : CartesianSelection),
      ((∃ t, (CartesianState.clamp bound selection ratio).applyTo s = (.ok (), t)) ↔
        s.empty = false ∧ .orientation ∉ selection.fields) ∧
      ∀ t, (CartesianState.clamp bound selection ratio).applyTo s = (.ok (), t) →
        ((CartesianState.clamp (defined bound) selection (defined ratio)).applyTo
            (s.mapNumbers defined) = (.ok (), t.mapNumbers defined) ∧
            Attenuates (s.read selection) (t.read selection) ↔
          Covers bound ratio (Scalar.norm (s.read selection)))) ∧
    (∀ {kind : ScrewKind} (p : CartesianScrew ℝ kind), p.general.empty = false →
      ∃ q : CartesianScrew ℝ kind, (CartesianScrew.clamp limits).applyTo p = (.ok (), q) ∧
        ((CartesianScrew.clamp (limits.mapNumbers defined)).applyTo (p.mapNumbers defined) =
            (.ok (), q.mapNumbers defined) ∧
            Attenuates (CartesianScrew.linear p).toList (CartesianScrew.linear q).toList ∧
            Attenuates (CartesianScrew.angular p).toList (CartesianScrew.angular q).toList ↔
          Covers limits.maxLinear limits.linearRatio (CartesianScrew.linear p).norm ∧
            Covers limits.maxAngular limits.angularRatio (CartesianScrew.angular p).norm)) ∧
    (∀ (s : JointState ℝ) (selection : JointSelection), s.Sized →
      ((∃ t, (JointState.clampEach bounds selection ratios).applyTo s = (.ok (), t)) ↔
        s.empty = false ∧ bounds.length = selection.size s.size ∧
          ratios.length = selection.size s.size) ∧
      ∀ t, (JointState.clampEach bounds selection ratios).applyTo s = (.ok (), t) →
        ((JointState.clampEach (bounds.map defined) selection (ratios.map defined)).applyTo
            (s.mapNumbers defined) = (.ok (), t.mapNumbers defined) ∧
            List.Forall₂ Weakens (s.read selection) (t.read selection) ↔
          List.Forall₂ (fun x limit => Covers limit.1 limit.2 |x|) (s.read selection)
            (bounds.zip ratios))) ∧
    (∀ (s : JointState ℝ) (selection : JointSelection), s.Sized →
      ((∃ t, (JointState.clamp bound selection ratio).applyTo s = (.ok (), t)) ↔
        s.empty = false) ∧
      ∀ t, (JointState.clamp bound selection ratio).applyTo s = (.ok (), t) →
        ((JointState.clamp (defined bound) selection (defined ratio)).applyTo
            (s.mapNumbers defined) = (.ok (), t.mapNumbers defined) ∧
            List.Forall₂ Weakens (s.read selection) (t.read selection) ↔
          ∀ x ∈ s.read selection, Covers bound ratio |x|)) ∧
    (∀ {field : JointField} (p : JointProjection ℝ field), p.general.Sized →
      ((∃ q, (JointProjection.clampEach bounds ratios).applyTo p = (.ok (), q)) ↔
        p.general.empty = false ∧ bounds.length = p.general.size ∧
          ratios.length = p.general.size) ∧
      ∀ q, (JointProjection.clampEach bounds ratios).applyTo p = (.ok (), q) →
        ((JointProjection.clampEach (bounds.map defined) (ratios.map defined)).applyTo
            (p.mapNumbers defined) = (.ok (), q.mapNumbers defined) ∧
            List.Forall₂ Weakens (p.general.read field.selection)
              (q.general.read field.selection) ↔
          List.Forall₂ (fun x limit => Covers limit.1 limit.2 |x|)
            (p.general.read field.selection) (bounds.zip ratios))) ∧
    ∀ {field : JointField} (p : JointProjection ℝ field), p.general.Sized →
      ((∃ q, (JointProjection.clamp bound ratio).applyTo p = (.ok (), q)) ↔
        p.general.empty = false) ∧
      ∀ q, (JointProjection.clamp bound ratio).applyTo p = (.ok (), q) →
        ((JointProjection.clamp (defined bound) (defined ratio)).applyTo (p.mapNumbers defined) =
            (.ok (), q.mapNumbers defined) ∧
            List.Forall₂ Weakens (p.general.read field.selection)
              (q.general.read field.selection) ↔
          ∀ x ∈ p.general.read field.selection, Covers bound ratio |x|) := by
  refine ⟨fun s selection => ?_, fun p hp => ?_, fun s selection hsized => ?_,
    fun s selection hsized => ?_, fun p hsized => ?_, fun p hsized => ?_⟩
  · exact ⟨CartesianState.exists_clamp_iff, fun t => CartesianState.clamp_attenuates_iff⟩
  · exact ⟨_, CartesianScrew.clamp_applyTo hp limits, CartesianScrew.clamp_attenuates_iff hp⟩
  · exact ⟨JointState.exists_clampEach_iff hsized,
      fun t => JointState.clampEach_weakens_iff hsized⟩
  · exact ⟨JointState.exists_clamp_iff hsized, fun t => JointState.clamp_weakens_iff hsized⟩
  · exact ⟨JointProjection.exists_clampEach_iff hsized,
      fun q => JointProjection.clampEach_weakens_iff hsized⟩
  · exact ⟨JointProjection.exists_clamp_iff hsized,
      fun q => JointProjection.clamp_weakens_iff hsized⟩

theorem bounding_attenuates_iff_arm :
    let arm : JointState ℝ := (JointState.zero "arm" ["shoulder", "elbow"] ⟨0⟩).setValues
      ((JointValues.zeros 2).set .velocities [-3, 1 / 2])
    let twist : CartesianTwist ℝ := .ofParts .twist "hand" ⟨3, 0, 4⟩ ⟨0, 0, 1⟩ "base" ⟨0⟩
    let limits : CartesianLimits ℝ := ⟨2, 1, 0, 0⟩
    (∃ t, (JointState.clampEach [2, 1] .velocities [0, 1 / 2]).applyTo arm = (.ok (), t) ∧
      List.Forall₂ Weakens [-3, 1 / 2] (t.read .velocities)) ∧
    (∃ t, (JointState.clamp (-1) .velocities 0).applyTo arm = (.ok (), t) ∧
      ¬((JointState.clamp (defined (-1)) .velocities (defined 0)).applyTo
          (arm.mapNumbers defined) = (.ok (), t.mapNumbers defined) ∧
        List.Forall₂ Weakens [-3, 1 / 2] (t.read .velocities))) ∧
    ∃ slower, (CartesianScrew.clamp limits).applyTo twist = (.ok (), slower) ∧
      Attenuates [3, 0, 4] (CartesianScrew.linear slower).toList ∧
      Attenuates [0, 0, 1] (CartesianScrew.angular slower).toList := by
  intro arm twist limits
  obtain ⟨-, hscrew, heach, hclamp, -⟩ := bounding_attenuates_iff (-1) 0 [2, 1] [0, 1 / 2] limits
  have hsized : arm.Sized := by
    intro field
    cases field <;> rfl
  refine ⟨?_, ?_, ?_⟩
  · obtain ⟨hexists, hcovers⟩ := heach arm .velocities hsized
    obtain ⟨t, ht⟩ := hexists.mpr ⟨rfl, rfl, rfl⟩
    have hbounds : List.Forall₂ (fun x limit => Covers limit.1 limit.2 |x|)
        (arm.read .velocities) (List.zip [2, 1] [0, 1 / 2]) :=
      .cons (.inl two_pos.le) (.cons (.inl one_pos.le) .nil)
    exact ⟨t, ht, ((hcovers t ht).mpr hbounds).2⟩
  · obtain ⟨hexists, hcovers⟩ := hclamp arm .velocities hsized
    obtain ⟨t, ht⟩ := hexists.mpr rfl
    refine ⟨t, ht, fun h => ?_⟩
    have hshoulder : Covers (-1) 0 |(-3 : ℝ)| := (hcovers t ht).mp h (-3) List.mem_cons_self
    norm_num [Covers] at hshoulder
  · obtain ⟨slower, hslower, hcovers⟩ := hscrew twist rfl
    have hbounds : 0 ≤ limits.maxLinear ∧ 0 ≤ limits.maxAngular := ⟨two_pos.le, one_pos.le⟩
    exact ⟨slower, hslower, (hcovers.mpr ⟨.inl hbounds.1, .inl hbounds.2⟩).2⟩

/-- Under a negative bound a number is reversed and may grow, and zero is divided by. -/
theorem negative_bound_amplifies :
    let elbow (x : ℝ) : JointVelocities ℝ := (JointProjection.zero .velocities "arm" ["elbow"]
      ⟨0⟩).map fun s => s.setValues (s.values.set .velocities [x])
    (JointProjection.clamp (-2) 0).applyTo (elbow 1) = (.ok (), elbow (-2)) ∧ ¬Weakens 1 (-2) ∧
      ∃ q, (JointProjection.clamp (defined (-2)) (defined 0)).applyTo
        ((elbow 0).mapNumbers defined) = (.ok (), q) ∧
          q.general.values.get .velocities = [undefined] := by
  intro elbow
  have hsized (x : ℝ) : (elbow x).general.Sized := by
    intro field
    cases field <;> rfl
  refine ⟨?_, ?_, ?_⟩
  · have hget : (elbow 1).general.values.get .velocities = [1] := rfl
    have hreversed : (ClampAction.of (Scalar.abs 1) (-2) 0).apply (1 : ℝ) = -2 := by
      have habs : Scalar.abs (1 : ℝ) = 1 := abs_one
      rw [ClampAction.apply_eq, ClampAction.factor_of, habs]
      norm_num
    rw [JointProjection.clamp_eq_ok rfl (hsized 1), hget, List.map_singleton, hreversed]
    rfl
  · intro h
    have habs := h.abs_le
    norm_num at habs
  · have hfilled : ((elbow 0).mapNumbers defined).general.empty = false := rfl
    have hdivided : ClampAction.of (Scalar.abs (defined 0)) (defined (-2)) (defined 0) =
        .shrink undefined := by
      have habs : Scalar.abs (defined 0) = defined 0 := congrArg defined abs_zero
      rw [habs]
      exact ClampAction.of_defined_zero (by norm_num [Covers])
    have hget : ((elbow 0).mapNumbers defined).general.values.get .velocities = [defined 0] := rfl
    refine ⟨_, JointProjection.clamp_eq_ok hfilled ((hsized 0).mapNumbers defined) _ _, ?_⟩
    rw [hget, List.map_singleton, hdivided]
    rfl

end Kinematics
