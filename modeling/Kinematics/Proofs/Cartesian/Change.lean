import Kinematics.Proofs.Cartesian.Operation
import Kinematics.Proofs.Edit

/-!
# What changes of Cartesian states leave behind

A change that is refused leaves the state as it was, also where it is made in several steps: all
checks come before the first step that stores something. What a change that succeeds may leave
behind is said once, for all properties of Cartesian states that are to be kept.
-/

namespace Kinematics

namespace CartesianValues
variable {α : Type} [Scalar α]

/-- The unit quaternion that a write of the fields sets, if they have an orientation among them. -/
def quaternionIn? : List CartesianField → List α → Except (StateError α) (Option (Quaternion α))
  | .vector _ :: fields, _ :: _ :: _ :: data => quaternionIn? fields data
  | .orientation :: fields, w :: x :: y :: z :: data => do
      let q ← Quaternion.unit ⟨w, x, y, z⟩
      return (← quaternionIn? fields data).or (some q)
  | _, _ => .ok none

theorem write_of_quaternionIn?_error {fields : List CartesianField} {data : List α}
    {e : StateError α} (h : quaternionIn? fields data = .error e) (v : CartesianValues α) :
    write fields data v = .error e := by
  induction fields, data, v using write.induct with
  | case1 field fields x y z data v ih =>
    rw [quaternionIn?] at h
    rw [write]
    exact ih h
  | case2 fields w x y z data v ih =>
    rw [quaternionIn?] at h
    rw [write]
    cases hq : Quaternion.unit (⟨w, x, y, z⟩ : Quaternion α) with
    | error e' =>
      rw [hq] at h
      cases h
      rfl
    | ok q =>
      rw [hq] at h
      cases hrest : quaternionIn? fields data with
      | error e' =>
        simp only [hrest, bind, Except.bind] at h
        cases h
        exact ih q hrest
      | ok q? =>
        simp only [hrest, bind, Except.bind] at h
        cases h
  | case3 fields data v hvector horientation =>
    rw [quaternionIn?] at h
    · cases h
    all_goals assumption

/-- A write is refused on account of the orientation only. -/
theorem exists_write_eq_ok {fields : List CartesianField} (hout : .orientation ∉ fields)
    (data : List α) (v : CartesianValues α) : ∃ u, write fields data v = .ok u := by
  induction fields, data, v using write.induct with
  | case1 field fields x y z data v ih =>
    rw [write]
    apply ih
    intro hin
    exact hout (List.mem_cons_of_mem _ hin)
  | case2 fields w x y z data v ih => exact absurd List.mem_cons_self hout
  | case3 fields data v hvector horientation =>
    rw [write]
    · exact ⟨v, rfl⟩
    all_goals assumption

end CartesianValues

namespace CartesianState
variable {α : Type}

theorem length_read (s : CartesianState α) (selection : CartesianSelection) :
    (s.read selection).length = selection.size := by
  cases selection <;> rfl

section Stepwise

/-- Stores the vectors among the fields, one after the other. -/
def storeVectors : List CartesianField → List α → Edit α (CartesianState α) Unit
  | .vector field :: fields, x :: y :: z :: data => do
      modify fun s => { s with values := s.values.setVector field ⟨x, y, z⟩ }
      storeVectors fields data
  | .orientation :: fields, _ :: _ :: _ :: _ :: data => storeVectors fields data
  | _, _ => pure ()

variable [Scalar α]

/-- A write step by step: the checks, the vectors in turn, the orientation, and the mark that the
state is filled. -/
def writeStepwise (selection : CartesianSelection) (data : List α) :
    Edit α (CartesianState α) Unit := do
  if data.length ≠ selection.size then
    throw (.wrongSize (.cartesianData selection) selection.size data.length)
  let q? ← CartesianValues.quaternionIn? selection.fields data
  storeVectors selection.fields data
  modify fun s => { s with values := s.values.setOrientation (q?.getD s.values.orientation) }
  modify (·.setEmpty false)

/-- Once the quaternion is found, storing is not refused. -/
theorem storeVectors_succeeds {fields : List CartesianField} {data : List α}
    {q? : Option (Quaternion α)} (hq : CartesianValues.quaternionIn? fields data = .ok q?)
    (s : CartesianState α) :
    (storeVectors fields data).Succeeds s fun t =>
      t.toSpatialState = s.toSpatialState ∧ t.values.orientation = s.values.orientation ∧
        ∀ q, CartesianValues.write fields data (s.values.setOrientation q) =
          .ok (t.values.setOrientation (q?.getD q)) := by
  induction fields, data using CartesianValues.quaternionIn?.induct generalizing q? s with
  | case1 field fields x y z data ih =>
    rw [CartesianValues.quaternionIn?] at hq
    rw [storeVectors]
    refine .bind (.modify rfl) fun t ht => ?_
    subst ht
    obtain ⟨t, hstored, hspatial, horientation, hwrite⟩ := ih hq
      { s with values := s.values.setVector field ⟨x, y, z⟩ }
    refine ⟨t, hstored, hspatial, horientation, fun q => ?_⟩
    rw [CartesianValues.write]
    exact hwrite q
  | case2 fields w x y z data ih =>
    rw [CartesianValues.quaternionIn?] at hq
    obtain ⟨u, hu, hq⟩ := exists_of_bind_eq_ok hq
    obtain ⟨later?, hlater, hq⟩ := exists_of_bind_eq_ok hq
    cases hq
    obtain ⟨t, hstored, hspatial, horientation, hwrite⟩ := ih hlater s
    refine ⟨t, hstored, hspatial, horientation, fun q => ?_⟩
    rw [CartesianValues.write, hu]
    refine (hwrite u).trans ?_
    cases later? <;> rfl
  | case3 fields data hvector horientation =>
    rw [CartesianValues.quaternionIn?] at hq
    · cases hq
      rw [storeVectors]
      · refine ⟨s, rfl, rfl, rfl, fun q => ?_⟩
        rw [CartesianValues.write]
        · rfl
        all_goals assumption
      all_goals assumption
    all_goals assumption

/-- A write is what its steps come to. -/
theorem writeStepwise_eq_write (selection : CartesianSelection) (data : List α) :
    writeStepwise selection data = write selection data := by
  funext s
  change (writeStepwise selection data).applyTo s = (write selection data).applyTo s
  unfold writeStepwise write
  by_cases hsize : data.length ≠ selection.size
  · simp only [if_pos hsize, Edit.applyTo_bind, Edit.applyTo_throw]
  · simp only [if_neg hsize, Edit.applyTo_bind, Edit.applyTo_get, Edit.applyTo_liftM]
    cases hq : CartesianValues.quaternionIn? selection.fields data with
    | error e =>
      have hwrite := CartesianValues.write_of_quaternionIn?_error hq s.values
      rw [hwrite]
    | ok q? =>
      obtain ⟨t, hstored, hspatial, horientation, hwrite⟩ := storeVectors_succeeds hq s
      have hvalues : CartesianValues.write selection.fields data s.values =
          .ok (t.values.setOrientation (q?.getD t.values.orientation)) := by
        rw [horientation]
        exact hwrite s.values.orientation
      rw [hvalues]
      simp only [hstored, Edit.applyTo_modify]
      rw [setValues, ← hspatial]
      rfl

end Stepwise

section Settles
variable [Scalar α] {s : CartesianState α}

/-- `t` is `s` with the selected fields written from numbers. -/
def Rewritten (s : CartesianState α) (selection : CartesianSelection) (t : CartesianState α) :
    Prop :=
  ∃ data values, CartesianValues.write selection.fields data s.values = .ok values ∧
    t = s.setValues values

theorem setOrientationCoefficients_settles (q : Quaternion α) :
    (setOrientationCoefficients q).Settles s fun t => ∃ u, q.unit = .ok u ∧
      t = s.setOrientation u :=
  .liftM_bind fun u hu => .modify ⟨u, hu, rfl⟩

theorem write_settles (selection : CartesianSelection) (data : List α) :
    (write selection data).Settles s (s.Rewritten selection) :=
  .ite (fun _ => .throw_bind _ _) fun _ =>
    .get_bind <| .liftM_bind fun values hvalues => .modify ⟨data, values, hvalues, rfl⟩

/-- Vectors can be written whatever the numbers are. -/
theorem write_succeeds {selection : CartesianSelection} (hout : .orientation ∉ selection.fields)
    {data : List α} (hsize : data.length = selection.size) :
    (write selection data).Succeeds s (s.Rewritten selection) := by
  obtain ⟨values, hvalues⟩ := CartesianValues.exists_write_eq_ok hout data s.values
  refine ⟨s.setValues values, ?_, data, values, hvalues, rfl⟩
  unfold write
  rw [if_neg (not_not_intro hsize)]
  simp only [Edit.applyTo_bind, Edit.applyTo_get, Edit.applyTo_liftM, hvalues,
    Edit.applyTo_modify]

theorem multiply_settles (gain : DenseMatrix α) (selection : CartesianSelection) :
    (multiply gain selection).Settles s (s.Rewritten selection) :=
  .ite (fun _ => .throw_bind _ _) fun _ =>
    .get_bind <| .require_bind fun _ _ =>
      .ite (fun _ => .throw_bind _ _) fun _ =>
        .ite (fun _ => .throw_bind _ _) fun _ => write_settles selection _

theorem clamp_settles (bound : α) (selection : CartesianSelection) (ratio : α) :
    (clamp bound selection ratio).Settles s (s.Rewritten selection) :=
  .ite (fun _ => .throw_bind _ _) fun _ =>
    .get_bind <| .require_bind fun _ _ => write_settles selection _

/-- The vectors of a filled state are bounded without fail. -/
theorem clamp_succeeds (hs : s.empty = false) (bound : α) (field : VectorField) (ratio : α) :
    (clamp bound field.selection ratio).Succeeds s (s.Rewritten field.selection) := by
  have hout : .orientation ∉ field.selection.fields := by
    simp
  unfold clamp
  rw [if_neg (mt CartesianSelection.containsOrientation_iff.mp hout)]
  refine .get_bind (.require_bind (State.assertFilled_eq_ok hs) (write_succeeds hout ?_))
  rw [List.length_map, length_read]

end Settles

namespace Change
variable [Scalar α]

/-- What a change of `s` that is not refused may leave behind. -/
def Leaves (s : CartesianState α) : Change α → CartesianState α → Prop
  | setName name, t => t = s.setName name
  | setFrame frame, t => t = s.setFrame frame
  | setEmpty empty, t => t = s.setEmpty empty
  | touch now, t => t = s.touch now
  | setZero, t => t = s.setZero
  | clear, t => t = s.clear
  | setVector field v, t => t = s.setVector field v
  | setOrientation q, t => t = s.setOrientation q
  | setOrientationCoefficients q, t => ∃ u, q.unit = .ok u ∧ t = s.setOrientation u
  | write selection _, t | multiply _ selection, t | clamp _ selection _, t =>
      s.Rewritten selection t

theorem settles (s : CartesianState α) (change : Change α) :
    change.edit.Settles s (change.Leaves s) := by
  cases change with
  | setName name => exact .modify rfl
  | setFrame frame => exact .modify rfl
  | setEmpty empty => exact .modify rfl
  | touch now => exact .modify rfl
  | setZero => exact .modify rfl
  | clear => exact .modify rfl
  | setVector field v => exact .modify rfl
  | setOrientation q => exact .modify rfl
  | setOrientationCoefficients q => exact setOrientationCoefficients_settles q
  | write selection data => exact write_settles selection data
  | multiply gain selection => exact multiply_settles gain selection
  | clamp bound selection ratio => exact clamp_settles bound selection ratio

end Change
end CartesianState

namespace CartesianProjection
variable {α : Type} {kind : CartesianKind}

theorem lift_settles {edit : Edit α (CartesianState α) Unit} {p : CartesianProjection α kind}
    {R : CartesianState α → Prop} (h : edit.Settles p.general R) :
    (lift edit : Edit α (CartesianProjection α kind) Unit).Settles p fun q => R q.general :=
  (h.within rfl).mono fun _ ⟨_, hR, hq⟩ => hq ▸ hR

theorem lift_succeeds {edit : Edit α (CartesianState α) Unit} {p : CartesianProjection α kind}
    {R : CartesianState α → Prop} (h : edit.Succeeds p.general R) :
    (lift edit : Edit α (CartesianProjection α kind) Unit).Succeeds p fun q => R q.general := by
  have hwithin : (lift edit : Edit α (CartesianProjection α kind) Unit).Succeeds p
      fun q => ∃ s, R s ∧ q = ⟨s⟩ := h.within
  obtain ⟨q, hq, s, hR, rfl⟩ := hwithin
  exact ⟨⟨s⟩, hq, hR⟩

end CartesianProjection

section Screw
variable {α : Type} [Scalar α] {kind : ScrewKind}

/-- `q` is `s` with its linear vector rewritten, and after that its angular one. -/
def CartesianScrew.Rewritten (p q : CartesianScrew α kind) : Prop :=
  ∃ s, p.general.Rewritten kind.linear.selection s ∧
    s.Rewritten kind.angular.selection q.general

/-- The second of the two bounds is not refused: the first has found, or left, the state filled. -/
theorem CartesianScrew.clamp_settles (p : CartesianScrew α kind) (limits : CartesianLimits α) :
    (CartesianScrew.clamp limits).Settles p p.Rewritten := by
  have hlinear := CartesianProjection.lift_settles (CartesianState.clamp_settles (s := p.general)
    limits.maxLinear kind.linear.selection limits.linearRatio)
  refine hlinear.bind fun q hq => ?_
  have hfilled : q.general.empty = false := by
    obtain ⟨data, values, -, hvalues⟩ := hq
    rw [hvalues]
    rfl
  obtain ⟨r, hr, hrewritten⟩ := CartesianProjection.lift_succeeds
    (CartesianState.clamp_succeeds hfilled limits.maxAngular kind.angular limits.angularRatio)
  exact ⟨r, hr, q.general, hq, hrewritten⟩

theorem CartesianScrew.clampWith_settles (p : CartesianScrew α kind)
    (limits : CartesianLimits α) : (CartesianScrew.clampWith limits).Settles p p.Rewritten :=
  .require_bind fun _ _ => clamp_settles p limits

end Screw

namespace CartesianProjection.Change
variable {α : Type} [Scalar α]

/-- What a change of `p` that is not refused may leave behind. -/
def Leaves : {kind : CartesianKind} → CartesianProjection α kind → Change α kind →
    CartesianProjection α kind → Prop
  | _, p, setName name, q => q = p.setName name
  | _, p, setFrame frame, q => q = p.setFrame frame
  | _, p, setEmpty empty, q => q = p.setEmpty empty
  | _, p, touch now, q => q = p.touch now
  | _, p, setZero, q => q = p.setZero
  | _, p, clear, q => q = p.clear
  | kind, p, setData _, q => p.general.Rewritten kind.selection q.general
  | _, p, setPosition position, q => q = CartesianPose.setPosition p position
  | _, p, setOrientation u, q => q = CartesianPose.setOrientation p u
  | _, p, setOrientationCoefficients w, q =>
      ∃ u, w.unit = .ok u ∧ q = CartesianPose.setOrientation p u
  | _, p, setLinear v, q => q = CartesianScrew.setLinear p v
  | _, p, setAngular v, q => q = CartesianScrew.setAngular p v
  | _, p, clamp _, q | _, p, clampWith _, q => CartesianScrew.Rewritten p q

theorem settles {kind : CartesianKind} (p : CartesianProjection α kind)
    (change : Change α kind) : change.edit.Settles p (change.Leaves p) := by
  cases change with
  | setName name => exact .modify rfl
  | setFrame frame => exact .modify rfl
  | setEmpty empty => exact .modify rfl
  | touch now => exact .modify rfl
  | setZero => exact .modify rfl
  | clear => exact .modify rfl
  | setData data => exact lift_settles (CartesianState.write_settles kind.selection data)
  | setPosition position => exact .modify rfl
  | setOrientation u => exact .modify rfl
  | setOrientationCoefficients w =>
    refine (lift_settles (CartesianState.setOrientationCoefficients_settles w)).mono ?_
    rintro q ⟨u, hu, hq⟩
    exact ⟨u, hu, congrArg CartesianProjection.mk hq⟩
  | setLinear v => exact .modify rfl
  | setAngular v => exact .modify rfl
  | clamp limits => exact CartesianScrew.clamp_settles p limits
  | clampWith limits => exact CartesianScrew.clampWith_settles p limits

end CartesianProjection.Change
end Kinematics
