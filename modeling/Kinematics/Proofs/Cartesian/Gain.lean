import Kinematics.Proofs.Cartesian.Clamp
import Kinematics.Proofs.Matrix

/-!
# Gains on screws

A screw is multiplied by a gain as the general state is, and an acceleration by the diagonal blocks
of the gain only. Gains compose as matrices do, and a gain without coupling multiplies the linear
and the angular vector each by itself.
-/

namespace Kinematics
open DenseMatrix (ofMatrix)

theorem Vector3.mulVec_toList (M : Matrix (Fin 3) (Fin 3) ℝ) (v : Vector3 ℝ) :
    (ofMatrix M).mulVec v.toList = (v.mapBy M).toList := by
  have hv : v.toList = List.ofFn ![v.x, v.y, v.z] := rfl
  have hM : (v.mapBy M).toList = List.ofFn ![(v.mapBy M).x, (v.mapBy M).y, (v.mapBy M).z] := rfl
  rw [hv, DenseMatrix.mulVec_ofFn, hM]
  congr 1
  funext i
  fin_cases i <;> simp [Matrix.mulVec, dotProduct, Fin.sum_univ_three, mapBy]

namespace CartesianValues
variable {α : Type} {field other : VectorField}

theorem setVector_setVector (v : CartesianValues α) (field : VectorField) (x y : Vector3 α) :
    (v.setVector field x).setVector field y = v.setVector field y := by
  apply ext_vector
  · rfl
  · intro other
    rw [setVector, setVector, setVector, vector_build, vector_build, vector_build]
    split <;> rfl

theorem setVector_comm (h : field ≠ other) (v : CartesianValues α) (x y : Vector3 α) :
    (v.setVector field x).setVector other y = (v.setVector other y).setVector field x := by
  apply ext_vector
  · rfl
  · intro third
    rw [setVector, setVector, setVector, setVector, vector_build, vector_build, vector_build,
      vector_build]
    by_cases hfield : third = field
    · rw [if_pos hfield, if_neg (hfield ▸ h), if_pos hfield]
    · rw [if_neg hfield, if_neg hfield]

end CartesianValues

theorem ScrewKind.linear_ne_angular (kind : ScrewKind) : kind.linear ≠ kind.angular := by
  cases kind <;> decide

namespace CartesianState
variable {α : Type} {s : CartesianState α} {kind : ScrewKind}

/-- The state with other vectors in a screw of it. -/
def setScrew (s : CartesianState α) (kind : ScrewKind) (u v : Vector3 α) : CartesianState α :=
  (s.setVector kind.linear u).setVector kind.angular v

theorem vector_setScrew_linear (s : CartesianState α) (kind : ScrewKind) (u v : Vector3 α) :
    (s.setScrew kind u v).values.vector kind.linear = u :=
  (CartesianValues.vector_setVector_of_ne kind.linear_ne_angular _ v).trans
    (CartesianValues.vector_setVector_self _ _ u)

theorem vector_setScrew_angular (s : CartesianState α) (kind : ScrewKind) (u v : Vector3 α) :
    (s.setScrew kind u v).values.vector kind.angular = v :=
  CartesianValues.vector_setVector_self _ _ v

theorem vector_setScrew_of_ne {field : VectorField} (hlinear : field ≠ kind.linear)
    (hangular : field ≠ kind.angular) (s : CartesianState α) (u v : Vector3 α) :
    (s.setScrew kind u v).values.vector field = s.values.vector field :=
  (CartesianValues.vector_setVector_of_ne hangular _ v).trans
    (CartesianValues.vector_setVector_of_ne hlinear _ u)

theorem setScrew_comm (s : CartesianState α) (kind : ScrewKind) (u v : Vector3 α) :
    (s.setVector kind.angular v).setVector kind.linear u = s.setScrew kind u v :=
  congrArg s.setValues (CartesianValues.setVector_comm kind.linear_ne_angular s.values u v).symm

theorem setScrew_setScrew (s : CartesianState α) (kind : ScrewKind) (u v u' v' : Vector3 α) :
    (s.setScrew kind u v).setScrew kind u' v' = s.setScrew kind u' v' := by
  have hvalues : (s.setScrew kind u v).values.setVector kind.linear u' =
      (s.values.setVector kind.linear u').setVector kind.angular v := by
    rw [setScrew, setVector, setVector, setValues, setValues,
      CartesianValues.setVector_comm kind.linear_ne_angular.symm,
      CartesianValues.setVector_setVector]
  have hangular := congrArg (·.setVector kind.angular v') hvalues
  rw [CartesianValues.setVector_setVector] at hangular
  exact congrArg s.setValues hangular

theorem toSpatialState_setScrew (hs : s.empty = false) (kind : ScrewKind) (u v : Vector3 α) :
    (s.setScrew kind u v).toSpatialState = s.toSpatialState := by
  change { s.toSpatialState with empty := false } = s.toSpatialState
  rw [← hs]

theorem read_screw (s : CartesianState α) (kind : ScrewKind) :
    s.read (CartesianKind.screw kind).selection =
      (s.values.vector kind.linear).toList ++ (s.values.vector kind.angular).toList := by
  rw [read, kind.fields_selection, CartesianValues.read, List.flatMap_cons, List.flatMap_singleton]

variable [Scalar α]

theorem multiply_applyTo {gain : DenseMatrix α} {selection : CartesianSelection}
    (hs : s.empty = false) (hout : .orientation ∉ selection.fields)
    (hrows : gain.rows = selection.size) (hcols : gain.cols = selection.size) :
    (multiply gain selection).applyTo s =
      (write selection (gain.mulVec (s.read selection))).applyTo s := by
  rw [multiply, if_neg (mt CartesianSelection.containsOrientation_iff.mp hout),
    Edit.applyTo_bind, Edit.applyTo_get]
  dsimp only
  rw [Edit.applyTo_bind, Edit.applyTo_require, State.assertFilled_eq_ok hs]
  dsimp only
  rw [if_neg (not_not.mpr hrows), if_neg (not_not.mpr hcols)]

theorem write_screw (s : CartesianState α) (kind : ScrewKind) (u v : Vector3 α) :
    (write (CartesianKind.screw kind).selection (u.toList ++ v.toList)).applyTo s =
      (.ok (), s.setScrew kind u v) := by
  have hsize : (u.toList ++ v.toList).length = (CartesianKind.screw kind).selection.size := by
    cases kind <;> rfl
  refine write_eq_ok_iff.mpr
    ⟨hsize, (s.values.setVector kind.linear u).setVector kind.angular v, ?_, rfl⟩
  rw [kind.fields_selection, CartesianValues.write_vector]
  exact (CartesianValues.write_vector kind.angular v [] _).trans (CartesianValues.write_nil _ _)

/-- Projecting a screw of a state commutes with setting it. -/
theorem project_setScrew (s : CartesianState α) (kind : ScrewKind) (u v : Vector3 α) :
    (s.setScrew kind u v).project (.screw kind) =
      (s.project (.screw kind)).map (·.setScrew kind u v) := by
  have hvalues : ((s.values.setVector kind.linear u).setVector kind.angular v).restrict
      (CartesianKind.screw kind).selection.fields =
      ((s.values.restrict (CartesianKind.screw kind).selection.fields).setVector kind.linear
        u).setVector kind.angular v := by
    rw [CartesianValues.restrict_setVector_of_mem (CartesianScrew.angular_mem_fields kind),
      CartesianValues.restrict_setVector_of_mem (CartesianScrew.linear_mem_fields kind)]
  rw [project, CartesianProjection.map, project, setScrew, setVector, setVector, setValues,
    setValues, hvalues]
  rfl

end CartesianState

/-- The gain that a screw of the kind is multiplied by: of an acceleration, the linear and the
angular part do not mix. -/
def ScrewKind.gain (kind : ScrewKind) (G : Matrix (Fin 6) (Fin 6) ℝ) :
    Matrix (Fin 6) (Fin 6) ℝ :=
  if kind = .acceleration then uncoupled 3 3 G else G

section Gains
variable {s : CartesianState ℝ} {kind : ScrewKind} {u v : Vector3 ℝ}
  {G : Matrix (Fin 6) (Fin 6) ℝ}

theorem CartesianState.multiply_screw (hs : s.empty = false)
    (h : (ofMatrix G).mulVec (s.read (CartesianKind.screw kind).selection) =
      u.toList ++ v.toList) :
    (multiply (ofMatrix G) (CartesianKind.screw kind).selection).applyTo s =
      (.ok (), s.setScrew kind u v) := by
  have hsize : (CartesianKind.screw kind).selection.size = 6 := by
    cases kind <;> rfl
  rw [multiply_applyTo hs (by simp [kind.fields_selection]) hsize.symm hsize.symm, h, write_screw]

theorem CartesianState.multiply_vector (hs : s.empty = false) (field : VectorField)
    (M : Matrix (Fin 3) (Fin 3) ℝ) :
    (multiply (ofMatrix M) field.selection).applyTo s =
      (.ok (), s.setVector field ((s.values.vector field).mapBy M)) := by
  have hsize : field.selection.size = 3 := by
    cases field <;> rfl
  rw [multiply_applyTo hs (by simp) hsize.symm hsize.symm, read_vector, Vector3.mulVec_toList,
    write_vector]

theorem exists_mulVec_eq_append (G : Matrix (Fin 6) (Fin 6) ℝ) (xs : List ℝ) :
    ∃ u v : Vector3 ℝ, (ofMatrix G).mulVec xs = u.toList ++ v.toList := by
  have hlength : ((ofMatrix G).mulVec xs).length = 3 + 3 := DenseMatrix.length_mulVec _ xs
  obtain ⟨u, rest, hu, hrest⟩ := CartesianValues.exists_vector_append hlength
  obtain ⟨v, rest, hv, hrest⟩ := CartesianValues.exists_vector_append (n := 0) hrest
  rw [List.length_eq_zero_iff.mp hrest, List.append_nil] at hv
  exact ⟨u, v, hv ▸ hu⟩

theorem mulVec_diagonalBlocks_toList (U L : Matrix (Fin 3) (Fin 3) ℝ) (u v : Vector3 ℝ) :
    (ofMatrix (diagonalBlocks U L)).mulVec (u.toList ++ v.toList) =
      (u.mapBy U).toList ++ (v.mapBy L).toList := by
  rw [mulVec_diagonalBlocks U L rfl rfl, Vector3.mulVec_toList, Vector3.mulVec_toList]

namespace CartesianScrew
variable {p : CartesianScrew ℝ kind}

/-- Scaling a screw sets the two vectors that the gain of its kind makes of its own. -/
theorem scaleByMatrix_eq_ok (hp : p.general.empty = false)
    (h : (ofMatrix (kind.gain G)).mulVec (p.linear.toList ++ p.angular.toList) =
      u.toList ++ v.toList) :
    p.scaleByMatrix G = .ok (p.map (·.setScrew kind u v)) := by
  unfold scaleByMatrix
  rw [State.assertFilled_eq_ok hp]
  by_cases hkind : kind = .acceleration
  · -- Each vector is multiplied by its own block: no flat data is written.
    rw [ScrewKind.gain, if_pos hkind, uncoupled_eq, mulVec_diagonalBlocks_toList] at h
    obtain ⟨hu, hv⟩ := List.append_inj h rfl
    rw [if_pos hkind, ← Vector3.toList_inj.mp hu, ← Vector3.toList_inj.mp hv]
    rfl
  · have hmul : (DenseMatrix.mk 6 6 G).mulVec
        (p.general.read (CartesianKind.screw kind).selection) = u.toList ++ v.toList := by
      rw [ScrewKind.gain, if_neg hkind] at h
      rw [CartesianState.read_screw]
      exact h
    rw [if_neg hkind]
    dsimp only [bind, Except.bind]
    rw [hmul, Edit.onCopy_eq_ok_iff, CartesianProjection.setData,
      CartesianProjection.lift_eq_ok_iff, CartesianProjection.map, CartesianState.write_screw]

theorem linear_project (s : CartesianState ℝ) :
    linear (s.project (.screw kind)) = s.values.vector kind.linear := by
  rw [linear, CartesianState.project, CartesianValues.vector_restrict,
    if_pos (linear_mem_fields kind)]

theorem angular_project (s : CartesianState ℝ) :
    angular (s.project (.screw kind)) = s.values.vector kind.angular := by
  rw [angular, CartesianState.project, CartesianValues.vector_restrict,
    if_pos (angular_mem_fields kind)]

/-- A projection is scaled as the general state is multiplied. -/
theorem scaleByMatrix_project (hs : s.empty = false) (kind : ScrewKind)
    (G : Matrix (Fin 6) (Fin 6) ℝ) :
    ∃ t, (CartesianState.multiply (ofMatrix (kind.gain G))
        (CartesianKind.screw kind).selection).applyTo s = (.ok (), t) ∧
      scaleByMatrix (s.project (.screw kind)) G = .ok (t.project (.screw kind)) := by
  obtain ⟨u, v, huv⟩ :=
    exists_mulVec_eq_append (kind.gain G) (s.read (CartesianKind.screw kind).selection)
  refine ⟨_, CartesianState.multiply_screw hs huv, ?_⟩
  rw [CartesianState.read_screw, ← linear_project, ← angular_project] at huv
  rw [CartesianState.project_setScrew]
  exact scaleByMatrix_eq_ok hs huv

/-- A screw is scaled as the state in it is multiplied. -/
theorem scaleByMatrix_general (hp : p.general.empty = false) (G : Matrix (Fin 6) (Fin 6) ℝ) :
    ∃ q : CartesianScrew ℝ kind, p.scaleByMatrix G = .ok q ∧
      (CartesianState.multiply (ofMatrix (kind.gain G))
        (CartesianKind.screw kind).selection).applyTo p.general = (.ok (), q.general) := by
  obtain ⟨u, v, huv⟩ :=
    exists_mulVec_eq_append (kind.gain G) (p.general.read (CartesianKind.screw kind).selection)
  have hmultiply := CartesianState.multiply_screw hp huv
  rw [CartesianState.read_screw] at huv
  exact ⟨_, scaleByMatrix_eq_ok hp huv, hmultiply⟩

/-- Two gains one after the other are their product. -/
theorem scaleByMatrix_scaleByMatrix (hkind : kind ≠ .acceleration) (hp : p.general.empty = false)
    (G H : Matrix (Fin 6) (Fin 6) ℝ) :
    ∃ q r, p.scaleByMatrix G = .ok q ∧ q.scaleByMatrix H = .ok r ∧
      p.scaleByMatrix (H * G) = .ok r := by
  have hgain (M : Matrix (Fin 6) (Fin 6) ℝ) : kind.gain M = M := if_neg hkind
  obtain ⟨u, v, hG⟩ := exists_mulVec_eq_append G (p.linear.toList ++ p.angular.toList)
  obtain ⟨u', v', hH⟩ := exists_mulVec_eq_append H (u.toList ++ v.toList)
  have hproduct : (ofMatrix (H * G)).mulVec (p.linear.toList ++ p.angular.toList) =
      u'.toList ++ v'.toList := by
    rw [← DenseMatrix.mulVec_mulVec H G rfl, hG, hH]
  have hlinear : linear (p.map (·.setScrew kind u v)) = u :=
    p.general.vector_setScrew_linear kind u v
  have hangular : angular (p.map (·.setScrew kind u v)) = v :=
    p.general.vector_setScrew_angular kind u v
  have hlast : scaleByMatrix (p.map (·.setScrew kind u v)) H =
      .ok ((p.map (·.setScrew kind u v)).map (·.setScrew kind u' v')) := by
    apply scaleByMatrix_eq_ok rfl
    rw [hgain, hlinear, hangular, hH]
  refine ⟨_, _, scaleByMatrix_eq_ok hp (by rw [hgain, hG]), hlast, ?_⟩
  rw [scaleByMatrix_eq_ok hp (by rw [hgain, hproduct]), CartesianProjection.map,
    CartesianProjection.map, CartesianProjection.map, CartesianState.setScrew_setScrew]

end CartesianScrew

/-- A gain without coupling multiplies each vector of a screw by its own block. -/
theorem CartesianState.multiply_blocks (hs : s.empty = false) (kind : ScrewKind)
    (U L : Matrix (Fin 3) (Fin 3) ℝ) :
    (multiply (ofMatrix (diagonalBlocks U L)) (CartesianKind.screw kind).selection).applyTo s =
      (.ok (), s.setScrew kind ((s.values.vector kind.linear).mapBy U)
        ((s.values.vector kind.angular).mapBy L)) := by
  apply multiply_screw hs
  rw [read_screw, mulVec_diagonalBlocks_toList]

/-- Two vectors, each multiplied by itself. -/
theorem CartesianState.multiply_vector_vector (hs : s.empty = false) {field other : VectorField}
    (h : other ≠ field) (M K : Matrix (Fin 3) (Fin 3) ℝ) :
    (do multiply (ofMatrix M) field.selection
        multiply (ofMatrix K) other.selection).applyTo s =
      (.ok (), (s.setVector field ((s.values.vector field).mapBy M)).setVector other
        ((s.values.vector other).mapBy K)) := by
  have hother (v : Vector3 ℝ) : (s.setVector field v).values.vector other =
      s.values.vector other :=
    CartesianValues.vector_setVector_of_ne h s.values v
  rw [Edit.applyTo_bind, multiply_vector hs]
  dsimp only
  rw [multiply_vector rfl, hother]

end Gains

open CartesianState (multiply)

/-- All gains on a filled screw succeed. A twist or a wrench is scaled as the general state is
multiplied, and two gains one after the other are their product; an acceleration is scaled as by the
diagonal blocks of the gain. A gain that consists of diagonal blocks multiplies the linear vector by
the first and the angular vector by the second, in either order, and nothing else changes. -/
theorem screw_gains_agree (G H : Matrix (Fin 6) (Fin 6) ℝ) (s : CartesianState ℝ)
    (hs : s.empty = false) :
    (∀ kind, let M := if kind = .acceleration then uncoupled 3 3 G else G
      (∃ t, (multiply (ofMatrix M) (CartesianKind.screw kind).selection).applyTo s = (.ok (), t) ∧
        CartesianScrew.scaleByMatrix (s.project (.screw kind)) G =
          .ok (t.project (.screw kind))) ∧
      ∀ p : CartesianScrew ℝ kind, p.general.empty = false → ∃ q : CartesianScrew ℝ kind,
        p.scaleByMatrix G = .ok q ∧
        (multiply (ofMatrix M) (CartesianKind.screw kind).selection).applyTo p.general =
          (.ok (), q.general)) ∧
    (∀ kind, kind ≠ .acceleration → ∀ p : CartesianScrew ℝ kind, p.general.empty = false →
      ∃ q r, p.scaleByMatrix G = .ok q ∧ q.scaleByMatrix H = .ok r ∧
        p.scaleByMatrix (H * G) = .ok r) ∧
    ∀ (kind : ScrewKind) (U L : Matrix (Fin 3) (Fin 3) ℝ), ∃ t,
      (multiply (ofMatrix (diagonalBlocks U L)) (CartesianKind.screw kind).selection).applyTo s =
        (.ok (), t) ∧
      (do multiply (ofMatrix U) kind.linear.selection
          multiply (ofMatrix L) kind.angular.selection).applyTo s = (.ok (), t) ∧
      (do multiply (ofMatrix L) kind.angular.selection
          multiply (ofMatrix U) kind.linear.selection).applyTo s = (.ok (), t) ∧
      t.values.vector kind.linear = (s.values.vector kind.linear).mapBy U ∧
      t.values.vector kind.angular = (s.values.vector kind.angular).mapBy L ∧
      (∀ field, field ≠ kind.linear → field ≠ kind.angular →
        t.values.vector field = s.values.vector field) ∧
      t.values.orientation = s.values.orientation ∧ t.toSpatialState = s.toSpatialState := by
  refine ⟨fun kind => ⟨?_, fun p hp => ?_⟩, fun kind hkind p hp => ?_, fun kind U L => ?_⟩
  · exact CartesianScrew.scaleByMatrix_project hs kind G
  · exact CartesianScrew.scaleByMatrix_general hp G
  · exact CartesianScrew.scaleByMatrix_scaleByMatrix hkind hp G H
  · have hangular := CartesianState.multiply_vector_vector hs kind.linear_ne_angular L U
    rw [CartesianState.setScrew_comm] at hangular
    refine ⟨_, CartesianState.multiply_blocks hs kind U L,
      CartesianState.multiply_vector_vector hs kind.linear_ne_angular.symm U L, hangular,
      s.vector_setScrew_linear kind _ _, s.vector_setScrew_angular kind _ _,
      fun field hne hne' => CartesianState.vector_setScrew_of_ne hne hne' s _ _, rfl,
      CartesianState.toSpatialState_setScrew hs kind _ _⟩

theorem screw_gains_agree_hand :
    let hand : CartesianState ℝ :=
      (CartesianState.identity "hand" "base" ⟨0⟩ : CartesianState ℝ).setVector .linearVelocity
        ⟨1, 2, 3⟩
    let twist : CartesianTwist ℝ := hand.project (.screw .twist)
    let acceleration : CartesianAcceleration ℝ := hand.project (.screw .acceleration)
    let exchange : Matrix (Fin 6) (Fin 6) ℝ := .of fun i j => if j = i + 3 then 1 else 0
    let turn : Matrix (Fin 3) (Fin 3) ℝ := !![0, -1, 0; 1, 0, 0; 0, 0, 1]
    hand.empty = false ∧
      (∃ t, (multiply (ofMatrix exchange) .twist).applyTo hand = (.ok (), t) ∧
        CartesianScrew.scaleByMatrix twist exchange = .ok (t.project (.screw .twist))) ∧
      (∃ q, CartesianScrew.scaleByMatrix acceleration exchange = .ok q ∧
        (multiply (ofMatrix (uncoupled 3 3 exchange)) .acceleration).applyTo acceleration.general =
          (.ok (), q.general)) ∧
      (∃ q r, CartesianScrew.scaleByMatrix twist exchange = .ok q ∧
        CartesianScrew.scaleByMatrix q exchange = .ok r ∧
        CartesianScrew.scaleByMatrix twist (exchange * exchange) = .ok r) ∧
      ∃ t, (multiply (ofMatrix (diagonalBlocks turn turn)) .twist).applyTo hand = (.ok (), t) ∧
        t.values.linearVelocity = ⟨-2, 1, 3⟩ := by
  intro hand twist acceleration exchange turn
  obtain ⟨hscale, hcompose, hblocks⟩ := screw_gains_agree exchange exchange hand rfl
  obtain ⟨htwist, -⟩ := hscale .twist
  obtain ⟨-, hacceleration⟩ := hscale .acceleration
  obtain ⟨t, ht, -, -, hlinear, -⟩ := hblocks .twist turn turn
  refine ⟨rfl, htwist, hacceleration acceleration rfl, hcompose .twist (by decide) twist rfl,
    t, ht, hlinear.trans ?_⟩
  change Vector3.mapBy turn (⟨1, 2, 3⟩ : Vector3 ℝ) = _
  ext <;> simp [turn, Vector3.mapBy]

end Kinematics
