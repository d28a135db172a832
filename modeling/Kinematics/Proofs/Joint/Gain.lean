import Kinematics.Joint.Gain
import Kinematics.Proofs.Joint.Sum
import Kinematics.Proofs.Matrix

/-!
# Gains on joints

The selected numbers are multiplied by one number, by one number each or by a matrix. Where two of
these say the same they have the same outcome, and gains compose and distribute as matrices do.
-/

namespace Kinematics

namespace JointValues
variable {α : Type} {u v : JointValues α} {size : Nat}

theorem write_read_all (hu : u.Sized size) (v : JointValues α) :
    v.write size JointSelection.all.fields (u.read JointSelection.all.fields) = u := by
  apply write_read_of_eq hu
  intro field hnotin
  cases field <;> exact absurd (by decide) hnotin

theorem write_map_mul [Scalar α] (h : v.Sized size) (k : α) (fields : List JointField) :
    v.write size fields ((v.read fields).map (· * k)) = v.scale k fields := by
  rw [← read_scale]
  apply write_read_of_eq (h.scale k fields)
  intro field hnotin
  rw [get_scale, if_neg hnotin]

end JointValues

namespace JointState
variable {α : Type} {s : JointState α} {selection : JointSelection} {data : List α}

/-- The state with other numbers in the selected fields. -/
def withNumbers (s : JointState α) (selection : JointSelection) (data : List α) : JointState α :=
  s.setValues (s.values.write s.size selection.fields data)

theorem read_withNumbers (hdata : data.length = selection.size s.size) :
    (s.withNumbers selection data).read selection = data :=
  JointValues.read_write hdata selection.nodup_fields s.values

theorem withNumbers_withNumbers (s : JointState α) (selection : JointSelection)
    (data data' : List α) :
    (s.withNumbers selection data).withNumbers selection data' = s.withNumbers selection data' :=
  congrArg s.setValues (JointValues.write_write s.values s.size selection.fields data data')

theorem sized_withNumbers (hs : s.Sized) (hdata : data.length = selection.size s.size) :
    (s.withNumbers selection data).Sized :=
  JointValues.Sized.write hs hdata

section Outcomes
variable [Scalar α]

theorem multiply_applyTo {gain : DenseMatrix α} (hs : s.empty = false)
    (hrows : gain.rows = selection.size s.size) (hcols : gain.cols = selection.size s.size) :
    (multiply gain selection).applyTo s =
      (.ok (), s.withNumbers selection (gain.mulVec (s.read selection))) := by
  rw [multiply, Edit.applyTo_bind, Edit.applyTo_get]
  dsimp only
  rw [Edit.applyTo_bind, Edit.applyTo_require, State.assertFilled_eq_ok hs]
  dsimp only
  rw [if_neg (not_not.mpr hrows), if_neg (not_not.mpr hcols)]
  exact write_applyTo ((gain.length_mulVec _).trans hrows)

theorem multiplyEach_applyTo {gain : List α} (hs : s.empty = false) (hsized : s.Sized)
    (hgain : gain.length = selection.size s.size) :
    (multiplyEach gain selection).applyTo s =
      (.ok (), s.withNumbers selection (List.zipWith (· * ·) (s.read selection) gain)) := by
  rw [multiplyEach, Edit.applyTo_bind, Edit.applyTo_get]
  dsimp only
  rw [Edit.applyTo_bind, Edit.applyTo_require, State.assertFilled_eq_ok hs]
  dsimp only
  rw [if_neg (not_not.mpr hgain)]
  apply write_applyTo
  rw [List.length_zipWith, hsized.length_read, hgain, Nat.min_self]

/-- The same gain for each number is a multiple. -/
theorem multiplyEach_replicate (hs : s.empty = false) (hsized : s.Sized) (k : α) :
    (multiplyEach (List.replicate (selection.size s.size) k) selection).applyTo s =
      (.ok (), { s with values := s.values.scale k selection.fields }) := by
  have hread : selection.size s.size = (s.read selection).length :=
    (hsized.length_read selection).symm
  have hzip (xs : List α) :
      List.zipWith (· * ·) xs (List.replicate xs.length k) = xs.map (· * k) := by
    rw [← List.map_const', List.zipWith_map_right, List.zipWith_self]
  rw [multiplyEach_applyTo hs hsized List.length_replicate, hread, hzip, withNumbers,
    setValues_of_filled hs, read, JointValues.write_map_mul hsized]

end Outcomes

section Matrices
open DenseMatrix (ofMatrix)
variable {a b s : JointState ℝ} {selection : JointSelection}
  (G H : Matrix (Fin (selection.size s.size)) (Fin (selection.size s.size)) ℝ)

theorem multiply_ofMatrix (hs : s.empty = false) :
    (multiply (ofMatrix G) selection).applyTo s =
      (.ok (), s.withNumbers selection ((ofMatrix G).mulVec (s.read selection))) :=
  multiply_applyTo hs rfl rfl

theorem multiply_diagonal (hs : s.empty = false) (hsized : s.Sized)
    (g : Fin (selection.size s.size) → ℝ) :
    (multiply (ofMatrix (Matrix.diagonal g)) selection).applyTo s =
      (multiplyEach (List.ofFn g) selection).applyTo s := by
  rw [multiply_ofMatrix _ hs, multiplyEach_applyTo hs hsized List.length_ofFn,
    DenseMatrix.mulVec_diagonal g (hsized.length_read selection)]

theorem read_multiplied :
    (s.withNumbers selection ((ofMatrix G).mulVec (s.read selection))).read selection =
      (ofMatrix G).mulVec (s.read selection) :=
  read_withNumbers (DenseMatrix.length_mulVec _ _)

/-- Two gains one after the other are their product. -/
theorem multiply_multiply (hsized : s.Sized) :
    (multiply (ofMatrix H) selection).applyTo
        (s.withNumbers selection ((ofMatrix G).mulVec (s.read selection))) =
      (.ok (), s.withNumbers selection ((ofMatrix (H * G)).mulVec (s.read selection))) := by
  rw [multiply_applyTo rfl rfl rfl, read_multiplied, withNumbers_withNumbers,
    DenseMatrix.mulVec_mulVec H G (hsized.length_read selection)]

/-- A gain on some fields as a gain on all of them. -/
theorem multiply_widened (hs : s.empty = false) (hsized : s.Sized) :
    s.scaleByMatrix (ofMatrix (widened G (selection.offset s.size)
        (JointSelection.all.size s.size))) =
      .ok (s.withNumbers selection ((ofMatrix G).mulVec (s.read selection))) := by
  have hselected := hsized.length_read selection
  have hmul : ((ofMatrix G).mulVec (s.read selection)).length = selection.size s.size :=
    DenseMatrix.length_mulVec _ _
  have hbefore := JointValues.length_read_before hsized selection
  have hall := hsized.length_read .all
  have happend : s.read .all = s.values.read selection.before ++ s.read selection ++
      s.values.read selection.after := s.values.read_all_eq_append selection
  have hsize : (s.values.read selection.before).length + selection.size s.size +
      (s.values.read selection.after).length = JointSelection.all.size s.size := by
    rw [← hselected, ← hall, happend, List.length_append, List.length_append]
  have hwide : (ofMatrix (widened G (selection.offset s.size)
      (JointSelection.all.size s.size))).mulVec (s.read .all) =
      (s.withNumbers selection ((ofMatrix G).mulVec (s.read selection))).read .all := by
    rw [happend, ← hbefore, mulVec_widened G hselected hsize]
    exact (JointValues.read_all_write hmul s.values).symm
  rw [scaleByMatrix, Edit.onCopy_eq_ok_iff, multiply_applyTo hs rfl rfl, hwide]
  have hvalues := JointValues.write_read_all (sized_withNumbers hsized hmul) s.values
  exact congrArg (fun values => (Except.ok (), s.setValues values)) hvalues

variable {N : ℕ} (G : Matrix (Fin (JointSelection.all.size N)) (Fin (JointSelection.all.size N)) ℝ)

/-- The state with all numbers multiplied by the gain. -/
noncomputable def multiplied (s : JointState ℝ) : JointState ℝ :=
  s.withNumbers .all ((ofMatrix G).mulVec (s.read .all))

theorem scaleByMatrix_eq_ok (hs : s.empty = false) (hN : s.size = N) :
    s.scaleByMatrix (ofMatrix G) = .ok (multiplied G s) := by
  subst hN
  rw [scaleByMatrix, Edit.onCopy_eq_ok_iff, multiply_ofMatrix G hs, multiplied]

theorem multiplied_add (ha : a.Sized) (hb : b.Sized) (h : a.Alike b) (hN : a.size = N) :
    multiplied G (combined 1 a b) = combined 1 (multiplied G a) (multiplied G b) := by
  subst hN
  have hsum := sized_combined ha hb h 1
  have hlength (s : JointState ℝ) :
      ((ofMatrix G).mulVec (s.read .all)).length = JointSelection.all.size a.size :=
    DenseMatrix.length_mulVec _ _
  have hA : (multiplied G a).Sized := sized_withNumbers ha (hlength a)
  have hB : (multiplied G b).Sized := sized_withNumbers hb (h.size_eq ▸ hlength b)
  have halike : (multiplied G a).Alike (multiplied G b) := h
  have hread : (multiplied G (combined 1 a b)).read .all =
      (combined 1 (multiplied G a) (multiplied G b)).read .all := by
    have hreada : (multiplied G a).read .all = _ := read_withNumbers (hlength a)
    have hreadb : (multiplied G b).read .all = _ := read_withNumbers (h.size_eq ▸ hlength b)
    have hreads : (multiplied G (combined 1 a b)).read .all = _ :=
      read_withNumbers (hlength (combined 1 a b))
    rw [hreads, read_add hA hB halike, hreada, hreadb, read_add ha hb h,
      DenseMatrix.mulVec_add G (ha.length_read .all) (h.size_eq ▸ hb.length_read .all)]
  have hvalues := JointValues.ext_read_all
    (sized_withNumbers hsum (hlength (combined 1 a b))) (sized_combined hA hB halike 1) hread
  exact congrArg a.setValues hvalues

end Matrices

end JointState

open DenseMatrix (ofMatrix)
open JointState (multiply multiplyEach)

/-- All gains on a filled state succeed and agree. A diagonal matrix multiplies each number by its
own gain, and a multiple does so by the same gain. Two matrices one after the other are their
product, and a matrix on some of the fields is one on all fields that is the identity elsewhere.
Gains on all fields distribute over sums, and a difference is the sum with the negative. -/
theorem joint_gains_agree (s : JointState ℝ) (hs : s.empty = false) (hsized : s.Sized) :
    (∀ (selection : JointSelection) (g : Fin (selection.size s.size) → ℝ), ∃ t,
      (multiply (ofMatrix (.diagonal g)) selection).applyTo s = (.ok (), t) ∧
      (multiplyEach (List.ofFn g) selection).applyTo s = (.ok (), t)) ∧
    (∀ (selection : JointSelection) (k : ℝ), ∃ t, s.scaleSelection k selection = .ok t ∧
      (multiplyEach (List.replicate (selection.size s.size) k) selection).applyTo s =
        (.ok (), t)) ∧
    (∀ (selection : JointSelection)
        (G H : Matrix (Fin (selection.size s.size)) (Fin (selection.size s.size)) ℝ),
      ∃ t u, (multiply (ofMatrix G) selection).applyTo s = (.ok (), t) ∧
        (∀ x, s.read selection = List.ofFn x → t.read selection = List.ofFn (G.mulVec x)) ∧
        s.scaleByMatrix (ofMatrix (widened G (selection.offset s.size)
          (JointSelection.all.size s.size))) = .ok t ∧
        (multiply (ofMatrix H) selection).applyTo t = (.ok (), u) ∧
        (multiply (ofMatrix (H * G)) selection).applyTo s = (.ok (), u)) ∧
    (∀ (b : JointState ℝ) (G : Matrix (Fin (JointSelection.all.size s.size))
        (Fin (JointSelection.all.size s.size)) ℝ),
      b.empty = false → b.Sized → s.isCompatible b = true →
      ∃ sum s' b' t, s.add b = .ok sum ∧ sum.scaleByMatrix (ofMatrix G) = .ok t ∧
        s.scaleByMatrix (ofMatrix G) = .ok s' ∧ b.scaleByMatrix (ofMatrix G) = .ok b' ∧
        s'.add b' = .ok t) ∧
    ∀ b : JointState ℝ, s.sub b = b.scale (-1) >>= s.add := by
  refine ⟨fun selection g => ?_, fun selection k => ?_, fun selection G H => ?_,
    fun b G hb hb' hcompatible => ?_, JointState.sub_eq_bind hs⟩
  · have hdiagonal := JointState.multiply_ofMatrix (.diagonal g) hs
    exact ⟨_, hdiagonal, (JointState.multiply_diagonal hs hsized g).symm.trans hdiagonal⟩
  · exact ⟨_, JointState.scaleSelection_eq_ok hs k selection,
      JointState.multiplyEach_replicate hs hsized k⟩
  · refine ⟨_, _, JointState.multiply_ofMatrix G hs, fun x hx => ?_,
      JointState.multiply_widened G hs hsized, JointState.multiply_multiply G H hsized,
      JointState.multiply_ofMatrix (H * G) hs⟩
    rw [JointState.read_multiplied, hx, DenseMatrix.mulVec_ofFn]
  · have halike := JointState.isCompatible_iff.mp hcompatible
    refine ⟨_, _, _, _, JointState.combine_eq_ok hs hb halike 1,
      JointState.scaleByMatrix_eq_ok G hs rfl, JointState.scaleByMatrix_eq_ok G hs rfl,
      JointState.scaleByMatrix_eq_ok G hb halike.size_eq.symm, ?_⟩
    have hfilled (a : JointState ℝ) : (JointState.multiplied G a).empty = false := rfl
    rw [JointState.multiplied_add G hsized hb' halike rfl]
    exact JointState.combine_eq_ok (hfilled s) (hfilled b) halike 1

theorem joint_gains_agree_arm :
    let arm : JointState ℝ :=
      { (JointState.zero "arm" ["shoulder", "elbow"] ⟨0⟩ : JointState ℝ) with
        values := ⟨[1, 2], [3, 4], [0, 0], [5, 0]⟩ }
    let G : Matrix (Fin 2) (Fin 2) ℝ := !![1, 1; 0, 1]
    arm.empty = false ∧ arm.Sized ∧
      (∃ t u, (multiply (ofMatrix G) .velocities).applyTo arm = (.ok (), t) ∧
        t.read .velocities = [7, 4] ∧
        arm.scaleByMatrix (ofMatrix (widened G 2 8)) = .ok t ∧
        (multiply (ofMatrix G) .velocities).applyTo t = (.ok (), u) ∧
        (multiply (ofMatrix (G * G)) .velocities).applyTo arm = (.ok (), u)) ∧
      (∃ t, (multiplyEach [2, 3] .torques).applyTo arm = (.ok (), t)) ∧
      (∃ sum s' t, arm.add arm = .ok sum ∧ sum.scaleByMatrix (ofMatrix (widened G 2 8)) = .ok t ∧
        arm.scaleByMatrix (ofMatrix (widened G 2 8)) = .ok s' ∧ s'.add s' = .ok t) ∧
      arm.sub arm = arm.scale (-1) >>= arm.add := by
  intro arm G
  have hsized : arm.Sized := by
    intro field
    cases field <;> rfl
  obtain ⟨hdiagonal, -, hmatrix, hsum, hsub⟩ := joint_gains_agree arm rfl hsized
  obtain ⟨t, u, ht, hread, hwide, hu, hproduct⟩ := hmatrix .velocities G G
  obtain ⟨d, -, hd⟩ := hdiagonal .torques ![2, 3]
  have hcompatible : arm.isCompatible arm = true := by
    rw [JointState.isCompatible_iff]
    exact .refl arm
  obtain ⟨sum, s', b', r, hsum, hr, hs', hb', hadd⟩ :=
    hsum arm (widened G 2 8) rfl hsized hcompatible
  obtain rfl : s' = b' := Except.ok.inj (hs'.symm.trans hb')
  refine ⟨rfl, hsized, ⟨t, u, ht, ?_, hwide, hu, hproduct⟩, ⟨d, hd⟩,
    ⟨sum, s', r, hsum, hr, hs', hadd⟩, hsub arm⟩
  have hG : G.mulVec ![3, 4] = ![7, 4] := by
    funext i
    fin_cases i <;> norm_num [G, Matrix.mulVec, dotProduct, Fin.sum_univ_two]
  exact (hread ![3, 4] rfl).trans (congrArg List.ofFn hG)

end Kinematics
