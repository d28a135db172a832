import Kinematics.Proofs.Session.Run

/-!
# Invariants of sessions

A property of states that every operation on states keeps holds of every state of a session, also of
those that parameters, maps and shapes store. The storing and reading is dealt with here, once for
all properties.
-/

namespace Kinematics
variable {α : Type} [Scalar α]

/-- A property of states of all kinds. -/
structure Property (α : Type) where
  cartesian : CartesianState α → Prop
  projection {kind : CartesianKind} : CartesianProjection α kind → Prop
  joint : JointState α → Prop
  jointProjection {field : JointField} : JointProjection α field → Prop

namespace Property
variable {P : Property α} {c : Conduct α} {held : List (Value α)}

/-- The state that a value of a parameter is has the property. -/
def Stored {α : Type} (P : Property α) : ParameterValue α → Prop
  | ⟨.cartesianState, s⟩ => P.cartesian s
  | ⟨.cartesianPose, p⟩ => P.projection p
  | ⟨.jointState, s⟩ => P.joint s
  | ⟨.jointPositions, p⟩ => P.jointProjection p
  | _ => True

/-- The value is a state with the property, or all states that it stores have it. -/
def Holds {α : Type} (P : Property α) : Value α → Prop
  | .cartesian s => P.cartesian s
  | .projection p => P.projection p
  | .joint s => P.joint s
  | .jointProjection p => P.jointProjection p
  | .parameter p => p.Carries P.Stored
  | .map m => m.Carries P.Stored
  | .shape s => P.projection s.center
  | .ellipsoid e => P.projection e.center

/-- The operations that yield states yield some with the property from some with the property. -/
structure Kept (P : Property α) (c : Conduct α) : Prop where
  cartesian {held : List (Value α)} {s : CartesianState α} (hheld : ∀ v ∈ held, P.Holds v)
    (h : MakesCartesian c held s) : P.cartesian s
  projection {held : List (Value α)} {kind : CartesianKind} {p : CartesianProjection α kind}
    (hheld : ∀ v ∈ held, P.Holds v) (h : MakesProjection c held p) : P.projection p
  joint {held : List (Value α)} {s : JointState α} (hheld : ∀ v ∈ held, P.Holds v)
    (h : MakesJoint c held s) : P.joint s
  jointProjection {held : List (Value α)} {field : JointField} {p : JointProjection α field}
    (hheld : ∀ v ∈ held, P.Holds v) (h : MakesJointProjection c held p) : P.jointProjection p

omit [Scalar α] in
theorem stored_iff {v : ParameterValue α} : P.Stored v ↔ ∀ u ∈ v.state?, P.Holds u := by
  obtain ⟨type, payload⟩ := v
  cases type <;> simp [Stored, ParameterValue.state?, Holds]

section Storage

omit [Scalar α] in
theorem stored_of_held (hheld : ∀ v ∈ held, P.Holds v) {v : ParameterValue α}
    (hv : ∀ u ∈ v.state?, u ∈ held) : P.Stored v :=
  stored_iff.mpr fun u hu => hheld u (hv u hu)

omit [Scalar α] in
theorem carries_of_makesParameter (hheld : ∀ v ∈ held, P.Holds v) {p : Parameter α}
    (h : MakesParameter held p) : p.Carries P.Stored := by
  cases h with
  | new name type now => exact Parameter.carries_new name type now
  | ofValue name v now hv => exact Parameter.carries_ofValue (stored_of_held hheld hv) name now
  | @change p change hp hoperands =>
    have hcarries : p.Carries P.Stored := hheld _ hp
    cases change with
    | setName name => exact hcarries
    | set v =>
      have hv : P.Stored v :=
        stored_of_held hheld fun u hu => hoperands u (Option.mem_toList.mpr hu)
      exact Parameter.set_keeps_carries hv p hcarries
    | clear => exact nofun
  | lookup name hm h => exact ParameterMap.Carries.parameter (hheld _ hm) h
  | listed hm h => exact ParameterMap.Carries.toList (hheld _ hm) h
  | removed name hm h =>
    rw [ParameterMap.result_remove] at h
    exact ParameterMap.Carries.parameter (hheld _ hm) h

omit [Scalar α] in
theorem carries_of_makesMap (hheld : ∀ v ∈ held, P.Holds v) {m : ParameterMap α}
    (h : MakesMap held m) : m.Carries P.Stored := by
  cases h with
  | empty => exact ParameterMap.carries_empty
  | ofList ps hps h =>
    exact ParameterMap.carries_of_ofList (fun p hp => hheld _ (hps p hp)) h
  | @change m change hm hoperands =>
    have hcarries : m.Carries P.Stored := hheld _ hm
    cases change with
    | setParameter p =>
      have hp : p.Carries P.Stored := hheld _ (hoperands _ (List.mem_singleton.mpr rfl))
      exact ParameterMap.setParameter_keeps_carries hp m hcarries
    | setParameters ps =>
      have hps (p : Parameter α) (hp : p ∈ ps) : p.Carries P.Stored :=
        hheld _ (hoperands _ (List.mem_map_of_mem hp))
      exact ParameterMap.setParameters_keeps_carries hps m hcarries
    | setMap other =>
      have hother : other.Carries P.Stored := hheld _ (hoperands _ (List.mem_singleton.mpr rfl))
      exact ParameterMap.setMap_keeps_carries hother m hcarries
    | setValue name v now =>
      have hv : P.Stored v :=
        stored_of_held hheld fun u hu => hoperands u (Option.mem_toList.mpr hu)
      exact ParameterMap.setValue_keeps_carries hv name now m hcarries
    | remove name =>
      have hremove : ((ParameterMap.Change.remove name).edit : Edit α _ _).Keeps
          (ParameterMap.Carries P.Stored) :=
        .bind (ParameterMap.remove_keeps_carries name) fun _ => .pure _
      exact hremove m hcarries

end Storage

omit [Scalar α] in
theorem setCenter_keeps {pose : CartesianPose α} (hpose : P.projection pose) :
    (Shape.setCenter pose).Keeps fun s => P.projection s.center :=
  .bind (.require _) fun _ => .modify fun _ _ => hpose

/-- The center of an ellipse that is made from an equation is an identity moved in its plane. -/
theorem center_of_ofEquation {name frame : String} {coefficients : List α} {now : Instant}
    {e : Ellipsoid α} (h : Ellipsoid.ofEquation name coefficients frame now = .ok e) :
    ∃ position, e.center = (CartesianPose.identity name frame now.next).setPosition position := by
  unfold Ellipsoid.ofEquation at h
  split at h
  case h_1 =>
    obtain ⟨-, h⟩ := of_guard_eq_ok h
    obtain ⟨-, h⟩ := of_guard_eq_ok h
    cases h
    exact ⟨_, rfl⟩
  case h_2 => cases h

theorem exists_of_mem_samples {e : Ellipsoid α} {count : Nat} {now : Instant}
    {poses : List (CartesianPose α)} (h : e.samples count now = .ok poses)
    {pose : CartesianPose α} (hpose : pose ∈ poses) :
    ∃ rotation turned, e.rotation now = .ok rotation ∧
      e.center.compose rotation now = .ok turned ∧ ∃ name position frame,
        CartesianPose.compose turned (CartesianPose.ofPosition name position frame now) now =
          .ok pose := by
  obtain ⟨rotation, hrotation, h⟩ := exists_of_bind_eq_ok h
  obtain ⟨turned, hturned, h⟩ := exists_of_bind_eq_ok h
  obtain ⟨i, -, hcompose⟩ := exists_of_mapM_eq_ok h hpose
  exact ⟨rotation, turned, hrotation, hturned, _, _, _, hcompose⟩

namespace Kept

/-- A center is moved and turned as any pose is. -/
theorem setPosition (hP : P.Kept c) {pose : CartesianPose α} (hpose : P.projection pose)
    (position : Vector3 α) : P.projection (pose.setPosition position) := by
  have hheld : ∀ v ∈ [Value.projection pose], P.Holds v := List.forall_mem_singleton.mpr hpose
  exact hP.projection hheld (.change (.setPosition position) (List.mem_singleton.mpr rfl) trivial)

theorem setOrientation (hP : P.Kept c) {pose : CartesianPose α} (hpose : P.projection pose)
    {q : Quaternion α} (hq : c.rotation q) : P.projection (pose.setOrientation q) := by
  have hheld : ∀ v ∈ [Value.projection pose], P.Holds v := List.forall_mem_singleton.mpr hpose
  exact hP.projection hheld (.change (.setOrientation q) (List.mem_singleton.mpr rfl) hq)

theorem center_of_makesShape (hP : P.Kept c) (hheld : ∀ v ∈ held, P.Holds v) {s : Shape α}
    (h : MakesShape c held s) : P.projection s.center := by
  cases h with
  | new name frame now => exact hP.projection hheld (.identity name frame now.next)
  | ofEllipsoid he => exact hheld _ he
  | @change s change hs hoperands hallowed =>
    have hcenter : P.projection s.center := hheld _ hs
    cases change with
    | setName name => exact hcenter
    | setCenter pose =>
      have hpose : P.projection pose := hheld _ (hoperands _ (List.mem_singleton.mpr rfl))
      exact setCenter_keeps hpose s hcenter
    | setCenterPosition position => exact hP.setPosition hcenter position
    | setCenterOrientation q => exact hP.setOrientation hcenter hallowed

theorem center_of_makesEllipsoid (hP : P.Kept c) (hheld : ∀ v ∈ held, P.Holds v)
    {e : Ellipsoid α} (h : MakesEllipsoid c held e) : P.projection e.center := by
  cases h with
  | new name frame now => exact hP.projection hheld (.identity name frame now.next)
  | unit name frame now => exact hP.projection hheld (.identity name frame now.next)
  | ofEquation name coefficients frame now h =>
    obtain ⟨position, hcenter⟩ := center_of_ofEquation h
    rw [hcenter]
    exact hP.setPosition (hP.projection hheld (.identity name frame now.next)) position
  | @change e change he hoperands hallowed =>
    have hcenter : P.projection e.center := hheld _ he
    cases change with
    | setCenter pose =>
      have hpose : P.projection pose := hheld _ (hoperands _ (List.mem_singleton.mpr rfl))
      have hkeeps : (Ellipsoid.setCenter pose).Keeps fun e => P.projection e.center :=
        .within (setCenter_keeps hpose) (fun _ he => he) fun _ _ hs _ => hs
      exact hkeeps e hcenter
    | setCenterPosition position => exact hP.setPosition hcenter position
    | setCenterOrientation q => exact hP.setOrientation hcenter hallowed
    | setAxes x y => exact hcenter
    | setAngle angle => exact hcenter
    | setData data =>
      have hkeeps : (Ellipsoid.setData data).Keeps fun e => P.projection e.center := by
        unfold Ellipsoid.setData
        split
        · exact .modify fun _ he => hP.setPosition he _
        · exact .throw _
      exact hkeeps e hcenter

theorem compose (hP : P.Kept c) {kind : CartesianKind} {p : CartesianPose α}
    {q r : CartesianProjection α kind} {now : Instant} (hp : P.projection p)
    (hq : P.projection q) (h : p.compose q now = .ok r) : P.projection r := by
  have hheld : ∀ v ∈ [Value.projection p, Value.projection q], P.Holds v :=
    List.forall_mem_cons.mpr ⟨hp, List.forall_mem_singleton.mpr hq⟩
  exact hP.projection hheld (.compose now (by simp) (by simp) h)

theorem of_sample (hP : P.Kept c) (hheld : ∀ v ∈ held, P.Holds v) {e : Ellipsoid α} {count : Nat}
    {now : Instant} (he : .ellipsoid e ∈ held) {poses : List (CartesianPose α)}
    (h : e.samples count now = .ok poses) {pose : CartesianPose α} (hpose : pose ∈ poses) :
    P.projection pose := by
  obtain ⟨rotation, turned, hrotation, hturned, name, position, frame, hcompose⟩ :=
    exists_of_mem_samples h hpose
  have hcenter : P.projection e.center := hheld _ he
  have hturn : P.projection rotation := hP.projection hheld (.rotation now he hrotation)
  have hmoved : P.projection turned := hP.compose hcenter hturn hturned
  exact hP.compose hmoved (hP.projection hheld (.ofPosition name position frame now)) hcompose

/-- What one operation yields. -/
theorem step (hP : P.Kept c) (hheld : ∀ v ∈ held, P.Holds v) {u : Value α} (h : Step c held u) :
    P.Holds u := by
  cases h with
  | cartesian h => exact hP.cartesian hheld h
  | projection h => exact hP.projection hheld h
  | joint h => exact hP.joint hheld h
  | jointProjection h => exact hP.jointProjection hheld h
  | parameter h => exact carries_of_makesParameter hheld h
  | map h => exact carries_of_makesMap hheld h
  | shape h => exact hP.center_of_makesShape hheld h
  | ellipsoid h => exact hP.center_of_makesEllipsoid hheld h
  | value hp h hu => exact stored_iff.mp (Parameter.Carries.value (hheld _ hp) h) u hu
  | get hp h hu => exact stored_iff.mp (Parameter.Carries.get (hheld _ hp) h) u hu
  | lookup hm h hu => exact stored_iff.mp (ParameterMap.Carries.value (hheld _ hm) h) u hu
  | center hs => exact hheld (.shape _) hs
  | sample count now he h hpose => exact hP.of_sample hheld he h hpose

end Kept
end Property

/-- By induction on the session: what one operation yields from values with the property has it. -/
theorem Session.forall_of_step {Q : Value α → Prop} {c : Conduct α}
    (hstep : ∀ {held : List (Value α)} {u : Value α}, (∀ v ∈ held, Q v) → Step c held u → Q u)
    {held : List (Value α)} (h : Session c held) : ∀ v ∈ held, Q v := by
  induction h with
  | start => exact fun _ hv => absurd hv List.not_mem_nil
  | step _ h ih => exact List.forall_mem_cons.mpr ⟨hstep ih h, ih⟩

/-- What every operation keeps holds of all values that a session yields. -/
theorem Session.holds {P : Property α} {c : Conduct α} {held : List (Value α)}
    (h : Session c held) (hP : P.Kept c) : ∀ v ∈ held, P.Holds v :=
  h.forall_of_step fun hheld hstep => hP.step hheld hstep

end Kinematics
