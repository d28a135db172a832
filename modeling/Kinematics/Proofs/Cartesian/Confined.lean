import Kinematics.Proofs.Cartesian.Operation
import Kinematics.Proofs.Edit
import Kinematics.Random

/-!
# Confined projections

A projection is confined when projecting it once more changes nothing: it has the type of its
kind, and every field outside the kind rests at identity. All that projections are made by and
edited with keeps them confined.
-/

namespace Kinematics

namespace CartesianValues
variable {α : Type} [Scalar α]

theorem orientation_restrict (v : CartesianValues α) (fields : List CartesianField) :
    (v.restrict fields).orientation =
      if .orientation ∈ fields then v.orientation else .identity := rfl

theorem vector_restrict (v : CartesianValues α) (fields : List CartesianField)
    (field : VectorField) :
    (v.restrict fields).vector field = if .vector field ∈ fields then v.vector field else 0 := by
  rw [restrict, vector_build]

theorem restrict_eq_self_iff {v : CartesianValues α} {fields : List CartesianField} :
    v.restrict fields = v ↔
      (.orientation ∉ fields → v.orientation = .identity) ∧
        ∀ field, .vector field ∉ fields → v.vector field = 0 := by
  constructor
  · intro h
    refine ⟨fun hout => ?_, fun field hout => ?_⟩
    · rw [← h, orientation_restrict, if_neg hout]
    · rw [← h, vector_restrict, if_neg hout]
  · rintro ⟨horientation, hvector⟩
    apply ext_vector
    · rw [orientation_restrict]
      exact ite_eq_left_iff.mpr fun hout => (horientation hout).symm
    · intro field
      rw [vector_restrict]
      exact ite_eq_left_iff.mpr fun hout => (hvector field hout).symm

@[simp] theorem restrict_restrict (v : CartesianValues α) (fields : List CartesianField) :
    (v.restrict fields).restrict fields = v.restrict fields := by
  rw [restrict_eq_self_iff]
  refine ⟨fun hout => ?_, fun field hout => ?_⟩
  · rw [orientation_restrict, if_neg hout]
  · rw [vector_restrict, if_neg hout]

@[simp] theorem restrict_identity (fields : List CartesianField) :
    (identity : CartesianValues α).restrict fields = identity := by
  rw [restrict_eq_self_iff]
  exact ⟨fun _ => rfl, fun field _ => vector_build _ _ field⟩

section Writes
variable {v : CartesianValues α} {fields : List CartesianField}

theorem restrict_setVector_of_mem {field : VectorField} (hin : .vector field ∈ fields)
    (v : CartesianValues α) (x : Vector3 α) :
    (v.setVector field x).restrict fields = (v.restrict fields).setVector field x := by
  apply ext_vector
  · rfl
  · intro other
    by_cases hother : other = field
    · rw [hother, vector_restrict, if_pos hin, vector_setVector_self, vector_setVector_self]
    · rw [vector_restrict, vector_setVector_of_ne hother, vector_setVector_of_ne hother,
        vector_restrict]

theorem restrict_setVector (hv : v.restrict fields = v) {field : VectorField}
    (hin : .vector field ∈ fields) (x : Vector3 α) :
    (v.setVector field x).restrict fields = v.setVector field x := by
  rw [restrict_setVector_of_mem hin, hv]

theorem restrict_setOrientation (hv : v.restrict fields = v) (hin : .orientation ∈ fields)
    (q : Quaternion α) : (v.setOrientation q).restrict fields = v.setOrientation q := by
  obtain ⟨-, hvector⟩ := restrict_eq_self_iff.mp hv
  refine restrict_eq_self_iff.mpr ⟨fun hout => absurd hin hout, fun field hout => ?_⟩
  rw [vector_setOrientation]
  exact hvector field hout

theorem restrict_write (hv : v.restrict fields = v) {written : List CartesianField}
    (hsub : written ⊆ fields) {data : List α} {u : CartesianValues α}
    (h : write written data v = .ok u) : u.restrict fields = u := by
  induction written, data, v using write.induct with
  | case1 field written x y z data v ih =>
    obtain ⟨hin, hsub⟩ := List.cons_subset.mp hsub
    exact ih (restrict_setVector hv hin _) hsub h
  | case2 written w x y z data v ih =>
    obtain ⟨hin, hsub⟩ := List.cons_subset.mp hsub
    rw [write] at h
    cases hq : Quaternion.unit (⟨w, x, y, z⟩ : Quaternion α) with
    | error e => simp [hq, bind, Except.bind] at h
    | ok q =>
      rw [hq] at h
      exact ih q (restrict_setOrientation hv hin q) hsub h
  | case3 written data v hvector horientation =>
    rw [write] at h
    · cases h
      exact hv
    all_goals assumption

end Writes
end CartesianValues

/-- The outcome of a write, and the state it leaves behind. -/
theorem CartesianState.write_applyTo {α : Type} [Scalar α] (selection : CartesianSelection)
    (data : List α) (s : CartesianState α) :
    (write selection data).applyTo s =
      if data.length ≠ selection.size then
        (.error (.wrongSize (.cartesianData selection) selection.size data.length), s)
      else
        match CartesianValues.write selection.fields data s.values with
        | .ok values => (.ok (), s.setValues values)
        | .error e => (.error e, s) := by
  unfold write
  by_cases hsize : data.length ≠ selection.size
  · rw [if_pos hsize, if_pos hsize, Edit.applyTo_bind, Edit.applyTo_throw]
  · rw [if_neg hsize, if_neg hsize, Edit.applyTo_bind, Edit.applyTo_get]
    simp only [Edit.applyTo_bind, Edit.applyTo_liftM]
    cases CartesianValues.write selection.fields data s.values with
    | ok values => rfl
    | error e => rfl

namespace CartesianProjection
variable {α β : Type} [Scalar α] {kind : CartesianKind} {p q : CartesianProjection α kind}

/-- Projecting once more changes nothing. -/
def Confined (p : CartesianProjection α kind) : Prop := p.general.project kind = p

theorem confined_iff :
    p.Confined ↔ p.general.type = kind.type ∧
      p.general.values.restrict kind.selection.fields = p.general.values := by
  constructor
  · intro h
    have hgeneral : (p.general.project kind).general = p.general := congrArg general h
    exact ⟨(congrArg (·.type) hgeneral).symm, congrArg (·.values) hgeneral⟩
  · rintro ⟨htype, hvalues⟩
    rw [Confined, CartesianState.project, hvalues, ← htype]

theorem confined_project (s : CartesianState α) : (s.project kind).Confined :=
  confined_iff.mpr ⟨rfl, CartesianValues.restrict_restrict _ _⟩

theorem confined_new (name frame : String) (now : Instant) :
    (new kind name frame now : CartesianProjection α kind).Confined :=
  confined_iff.mpr ⟨rfl, CartesianValues.restrict_identity _⟩

namespace Confined

theorem type_eq (h : p.Confined) : p.general.type = kind.type := (confined_iff.mp h).1

theorem orientation_eq (h : p.Confined) (hout : .orientation ∉ kind.selection.fields) :
    p.general.values.orientation = .identity :=
  (CartesianValues.restrict_eq_self_iff.mp (confined_iff.mp h).2).1 hout

theorem vector_eq_zero (h : p.Confined) (field : VectorField)
    (hout : .vector field ∉ kind.selection.fields) : p.general.values.vector field = 0 :=
  (CartesianValues.restrict_eq_self_iff.mp (confined_iff.mp h).2).2 field hout

/-- Names, frames, emptiness and instants are not asked about. -/
theorem of_values_eq (h : p.Confined) (htype : q.general.type = p.general.type)
    (hvalues : q.general.values = p.general.values) : q.Confined := by
  rw [confined_iff, htype, hvalues]
  exact confined_iff.mp h

theorem setName (h : p.Confined) (name : String) : (p.setName name).Confined :=
  h.of_values_eq rfl rfl

theorem setFrame (h : p.Confined) (frame : String) : (p.setFrame frame).Confined :=
  h.of_values_eq rfl rfl

theorem setEmpty (h : p.Confined) (empty : Bool) : (p.setEmpty empty).Confined :=
  h.of_values_eq rfl rfl

theorem touch (h : p.Confined) (now : Instant) : (p.touch now).Confined :=
  h.of_values_eq rfl rfl

theorem setZero (h : p.Confined) : p.setZero.Confined :=
  confined_iff.mpr ⟨h.type_eq, CartesianValues.restrict_identity _⟩

theorem clear (h : p.Confined) : p.clear.Confined :=
  h.setZero.of_values_eq rfl rfl

theorem setVector (h : p.Confined) {field : VectorField}
    (hin : .vector field ∈ kind.selection.fields) (x : Vector3 α) :
    (p.map (·.setVector field x)).Confined :=
  confined_iff.mpr ⟨h.type_eq, CartesianValues.restrict_setVector (confined_iff.mp h).2 hin x⟩

theorem setOrientation (h : p.Confined) (hin : .orientation ∈ kind.selection.fields)
    (q : Quaternion α) : (p.map (·.setOrientation q)).Confined :=
  confined_iff.mpr
    ⟨h.type_eq, CartesianValues.restrict_setOrientation (confined_iff.mp h).2 hin q⟩

/-- All operations that yield a projection project what the general operation yields. -/
theorem of_project {result : Except (StateError α) (CartesianState α)}
    (h : (return (← result).project kind) = Except.ok p) : p.Confined := by
  cases result with
  | error e => cases h
  | ok s =>
    cases h
    exact confined_project s

end Confined

theorem lift_keeps_confined {edit : Edit α (CartesianState α) β}
    (h : edit.Keeps fun s => (⟨s⟩ : CartesianProjection α kind).Confined) :
    (lift edit : Edit α (CartesianProjection α kind) β).Keeps Confined :=
  h.within (fun _ ht => ht) (fun _ _ hs _ => hs)

/-- A write to fields of the kind, whether it is refused or not. -/
theorem write_keeps_confined {selection : CartesianSelection}
    (hsub : selection.fields ⊆ kind.selection.fields) (data : List α) :
    (CartesianState.write selection data).Keeps
      fun s => (⟨s⟩ : CartesianProjection α kind).Confined := by
  intro s hs
  rw [CartesianState.write_applyTo]
  by_cases hsize : data.length ≠ selection.size
  · rwa [if_pos hsize]
  · rw [if_neg hsize]
    cases hwrite : CartesianValues.write selection.fields data s.values with
    | error e => exact hs
    | ok values =>
      exact confined_iff.mpr
        ⟨hs.type_eq, CartesianValues.restrict_write (confined_iff.mp hs).2 hsub hwrite⟩

theorem setData_keeps_confined (data : List α) :
    (setData data : Edit α (CartesianProjection α kind) Unit).Keeps Confined :=
  lift_keeps_confined (write_keeps_confined (List.Subset.refl _) data)

/-- The step of every clamp of a screw. -/
theorem clamp_keeps_confined {selection : CartesianSelection}
    (hsub : selection.fields ⊆ kind.selection.fields) (bound ratio : α) :
    (CartesianState.clamp bound selection ratio).Keeps
      fun s => (⟨s⟩ : CartesianProjection α kind).Confined := by
  unfold CartesianState.clamp
  by_cases horientation : selection.containsOrientation = true
  · rw [if_pos horientation]
    exact .throw _
  · rw [if_neg horientation]
    exact .bind .get fun s => .bind (.require _) fun _ => write_keeps_confined hsub _

end CartesianProjection

namespace CartesianPose
variable {α : Type} [Scalar α]

theorem confined_ofPosition (name : String) (position : Vector3 α) (frame : String)
    (now : Instant) : (ofPosition name position frame now).Confined :=
  (CartesianProjection.confined_new name frame now).setVector (by decide) position

theorem confined_ofParts (name : String) (position : Vector3 α) (orientation : Quaternion α)
    (frame : String) (now : Instant) : (ofParts name position orientation frame now).Confined :=
  (confined_ofPosition name position frame now).setOrientation (by decide) orientation

end CartesianPose

namespace CartesianScrew
variable {α : Type} [Scalar α] {kind : ScrewKind}

theorem linear_mem_fields (kind : ScrewKind) :
    .vector kind.linear ∈ (CartesianKind.screw kind).selection.fields := by
  simp [kind.fields_selection]

theorem angular_mem_fields (kind : ScrewKind) :
    .vector kind.angular ∈ (CartesianKind.screw kind).selection.fields := by
  simp [kind.fields_selection]

theorem confined_ofParts (name : String) (linear angular : Vector3 α) (frame : String)
    (now : Instant) : (ofParts kind name linear angular frame now).Confined :=
  ((CartesianProjection.confined_new name frame now).setVector (linear_mem_fields kind)
    linear).setVector (angular_mem_fields kind) angular

theorem clamp_keeps_confined (limits : CartesianLimits α) :
    (clamp limits : Edit α (CartesianScrew α kind) Unit).Keeps
      CartesianProjection.Confined := by
  refine .bind (CartesianProjection.lift_keeps_confined ?_) fun _ =>
    CartesianProjection.lift_keeps_confined ?_
  · refine CartesianProjection.clamp_keeps_confined ?_ _ _
    simp [kind.fields_selection]
  · refine CartesianProjection.clamp_keeps_confined ?_ _ _
    simp [kind.fields_selection]

theorem clampWith_keeps_confined (limits : CartesianLimits α) :
    (clampWith limits : Edit α (CartesianScrew α kind) Unit).Keeps
      CartesianProjection.Confined :=
  .bind (.require _) fun _ => clamp_keeps_confined limits

theorem confined_of_scaleByMatrix {s r : CartesianScrew α kind} (hs : s.Confined)
    {gain : Fin 6 → Fin 6 → α} (h : s.scaleByMatrix gain = .ok r) : r.Confined := by
  unfold scaleByMatrix at h
  cases hfilled : (s.general.assertFilled : Except (StateError α) Unit) with
  | error e =>
    rw [hfilled] at h
    cases h
  | ok _ =>
    rw [hfilled] at h
    by_cases hkind : kind = .acceleration
    · simp only [bind, Except.bind, if_pos hkind] at h
      cases h
      exact (hs.setVector (linear_mem_fields kind) _).setVector (angular_mem_fields kind) _
    · simp only [bind, Except.bind, if_neg hkind] at h
      exact (CartesianProjection.setData_keeps_confined _).onCopy hs h

end CartesianScrew

namespace CartesianProjection
variable {α : Type} [Scalar α] {kind : CartesianKind} {p q : CartesianProjection α kind}

theorem Change.keeps_confined (change : Change α kind) : change.edit.Keeps Confined := by
  cases change with
  | setName name => exact .modify fun _ hp => hp.setName name
  | setFrame frame => exact .modify fun _ hp => hp.setFrame frame
  | setEmpty empty => exact .modify fun _ hp => hp.setEmpty empty
  | touch now => exact .modify fun _ hp => hp.touch now
  | setZero => exact .modify fun _ hp => hp.setZero
  | clear => exact .modify fun _ hp => hp.clear
  | setData data => exact setData_keeps_confined data
  | setPosition position => exact .modify fun _ hp => hp.setVector (by decide) position
  | setOrientation q => exact .modify fun _ hp => hp.setOrientation (by decide) q
  | setOrientationCoefficients q =>
    exact lift_keeps_confined <| .bind (.liftM _) fun u =>
      .modify fun _ hs => hs.setOrientation (by decide) u
  | setLinear v => exact .modify fun _ hp => hp.setVector (CartesianScrew.linear_mem_fields _) v
  | setAngular v => exact .modify fun _ hp => hp.setVector (CartesianScrew.angular_mem_fields _) v
  | clamp limits => exact CartesianScrew.clamp_keeps_confined limits
  | clampWith limits => exact CartesianScrew.clampWith_keeps_confined limits

theorem Operation.confined_of_apply {op : Operation α kind} (hp : p.Confined)
    (h : op.apply p = .ok q) : q.Confined := by
  cases op with
  | inverse | add | sub | negate | scale | divide | normalize => exact .of_project h
  | clamped limits => exact (CartesianScrew.clamp_keeps_confined limits).onCopy hp h
  | scaleByMatrix gain => exact CartesianScrew.confined_of_scaleByMatrix hp h

theorem confined_random {γ : Type} [RandomGen γ] (name frame : String) (now : Instant) (g : γ) :
    ((random kind name frame now : StateM γ (CartesianProjection α kind)).run g).1.Confined :=
  confined_project _

end CartesianProjection

section Time
variable {α : Type} [Scalar α] {pose : CartesianPose α} {twist : CartesianTwist α}
  {acceleration : CartesianAcceleration α} {dt : Duration} {now : Instant}

theorem CartesianPose.confined_of_differentiate (h : pose.differentiate dt now = .ok twist) :
    twist.Confined := by
  obtain ⟨-, -, h⟩ := exists_of_bind_eq_ok h
  obtain ⟨seconds, -, h⟩ := exists_of_bind_eq_ok h
  cases h
  exact CartesianScrew.confined_ofParts ..

theorem CartesianTwist.confined_of_integrate (h : twist.integrate dt now = .ok pose) :
    pose.Confined := by
  obtain ⟨-, -, h⟩ := exists_of_bind_eq_ok h
  cases h
  exact CartesianPose.confined_ofParts ..

theorem CartesianTwist.confined_of_differentiate
    (h : twist.differentiate dt now = .ok acceleration) : acceleration.Confined := by
  obtain ⟨-, -, h⟩ := exists_of_bind_eq_ok h
  obtain ⟨seconds, -, h⟩ := exists_of_bind_eq_ok h
  cases h
  exact CartesianScrew.confined_ofParts ..

theorem CartesianAcceleration.confined_of_integrate
    (h : acceleration.integrate dt now = .ok twist) : twist.Confined := by
  obtain ⟨-, -, h⟩ := exists_of_bind_eq_ok h
  cases h
  exact CartesianScrew.confined_ofParts ..

end Time
end Kinematics
