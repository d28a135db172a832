import Kinematics.Proofs.Cartesian.Filled
import Kinematics.Proofs.Joint.Filled
import Kinematics.Proofs.Joint.Sized
import Kinematics.Proofs.Parameter.Consistent
import Kinematics.Proofs.Session.Value
import Kinematics.Scalar.Binary64

/-!
# Reading empty values

The operations that read the numbers of states and shapes, and the values of parameters, refuse
empty ones. The numbers of single joints are read of empty joint states too.
-/

namespace Kinematics

/-- The mark that nothing has been written yet. Maps have none. -/
def Value.empty {α : Type} : Value α → Bool
  | cartesian s => s.empty
  | projection p => p.general.empty
  | joint s => s.empty
  | jointProjection p => p.general.empty
  | parameter p => p.empty
  | map _ => false
  | shape s => s.empty
  | ellipsoid e => e.empty

section Operations
variable {α : Type} [Scalar α]

inductive ReadsCartesian :
    List (Value α) → {β : Type} → Except (StateError α) β → (β → List (Value α)) → Prop
  | operate (s : CartesianState α) (op : CartesianState.Operation α) :
      ReadsCartesian ((s :: op.operands).map .cartesian) (op.apply s) fun t => [.cartesian t]
  | multiply (s : CartesianState α) (gain : DenseMatrix α) (selection : CartesianSelection) :
      ReadsCartesian [.cartesian s] ((CartesianState.multiply gain selection).onCopy s)
        fun t => [.cartesian t]
  | clamp (s : CartesianState α) (bound : α) (selection : CartesianSelection) (ratio : α) :
      ReadsCartesian [.cartesian s] ((CartesianState.clamp bound selection ratio).onCopy s)
        fun t => [.cartesian t]
  | data (s : CartesianState α) : ReadsCartesian [.cartesian s] s.data fun _ => []
  | norms (s : CartesianState α) (selection : CartesianSelection) :
      ReadsCartesian [.cartesian s] (s.norms selection) fun _ => []
  | dist (a b : CartesianState α) (selection : CartesianSelection) :
      ReadsCartesian [.cartesian a, .cartesian b] (a.dist b selection) fun _ => []

inductive ReadsProjection :
    List (Value α) → {β : Type} → Except (StateError α) β → (β → List (Value α)) → Prop
  | operate {kind : CartesianKind} (p : CartesianProjection α kind)
      (op : CartesianProjection.Operation α kind) :
      ReadsProjection ((p :: op.operands).map .projection) (op.apply p) fun q => [.projection q]
  | clamp {kind : ScrewKind} (p : CartesianScrew α kind) (limits : CartesianLimits α) :
      ReadsProjection [.projection p] ((CartesianScrew.clamp limits).onCopy p)
        fun q => [.projection q]
  | clampWith {kind : ScrewKind} (p : CartesianScrew α kind) (limits : CartesianLimits α) :
      ReadsProjection [.projection p] ((CartesianScrew.clampWith limits).onCopy p)
        fun q => [.projection q]
  | data {kind : CartesianKind} (p : CartesianProjection α kind) :
      ReadsProjection [.projection p] p.data fun _ => []
  | compose {kind : CartesianKind} (p : CartesianPose α) (q : CartesianProjection α kind)
      (now : Instant) :
      ReadsProjection [.projection p, .projection q] (p.compose q now) fun r => [.projection r]
  | toIsometry (p : CartesianPose α) : ReadsProjection [.projection p] p.toIsometry fun _ => []
  | transform (p : CartesianPose α) (v : Vector3 α) :
      ReadsProjection [.projection p] (p.transform v) fun _ => []
  | differentiatePose (p : CartesianPose α) (dt : Duration) (now : Instant) :
      ReadsProjection [.projection p] (p.differentiate dt now) fun t => [.projection t]
  | integrateTwist (t : CartesianTwist α) (dt : Duration) (now : Instant) :
      ReadsProjection [.projection t] (t.integrate dt now) fun p => [.projection p]
  | differentiateTwist (t : CartesianTwist α) (dt : Duration) (now : Instant) :
      ReadsProjection [.projection t] (t.differentiate dt now) fun a => [.projection a]
  | integrateAcceleration (a : CartesianAcceleration α) (dt : Duration) (now : Instant) :
      ReadsProjection [.projection a] (a.integrate dt now) fun t => [.projection t]
  | poseOfTwist (t : CartesianTwist α) (now : Instant) :
      ReadsProjection [.projection t] (CartesianPose.ofTwist t now) fun p => [.projection p]
  | accelerationOfTwist (t : CartesianTwist α) (now : Instant) :
      ReadsProjection [.projection t] (CartesianAcceleration.ofTwist t now)
        fun a => [.projection a]

inductive ReadsJoint :
    List (Value α) → {β : Type} → Except (StateError α) β → (β → List (Value α)) → Prop
  | operate (s : JointState α) (op : JointState.Operation α) :
      ReadsJoint ((s :: op.operands).map .joint) (op.apply s) fun t => [.joint t]
  | clamp (s : JointState α) (bound : α) (selection : JointSelection) (ratio : α) :
      ReadsJoint [.joint s] ((JointState.clamp bound selection ratio).onCopy s)
        fun t => [.joint t]
  | clampEach (s : JointState α) (bounds : List α) (selection : JointSelection)
      (ratios : List α) :
      ReadsJoint [.joint s] ((JointState.clampEach bounds selection ratios).onCopy s)
        fun t => [.joint t]
  | multiply (s : JointState α) (gain : DenseMatrix α) (selection : JointSelection) :
      ReadsJoint [.joint s] ((JointState.multiply gain selection).onCopy s) fun t => [.joint t]
  | multiplyEach (s : JointState α) (gain : List α) (selection : JointSelection) :
      ReadsJoint [.joint s] ((JointState.multiplyEach gain selection).onCopy s)
        fun t => [.joint t]
  | data (s : JointState α) : ReadsJoint [.joint s] s.data fun _ => []
  | dist (a b : JointState α) (selection : JointSelection) :
      ReadsJoint [.joint a, .joint b] (a.dist b selection) fun _ => []

inductive ReadsJointProjection :
    List (Value α) → {β : Type} → Except (StateError α) β → (β → List (Value α)) → Prop
  | operate {field : JointField} (p : JointProjection α field)
      (op : JointProjection.Operation α field) :
      ReadsJointProjection ((p :: op.operands).map .jointProjection) (op.apply p)
        fun q => [.jointProjection q]
  | clamp {field : JointField} (p : JointProjection α field) (bound ratio : α) :
      ReadsJointProjection [.jointProjection p] ((JointProjection.clamp bound ratio).onCopy p)
        fun q => [.jointProjection q]
  | clampEach {field : JointField} (p : JointProjection α field) (bounds ratios : List α) :
      ReadsJointProjection [.jointProjection p]
        ((JointProjection.clampEach bounds ratios).onCopy p) fun q => [.jointProjection q]
  | clampWith {field : JointField} (p : JointProjection α field) (limits : JointLimits α) :
      ReadsJointProjection [.jointProjection p] ((JointProjection.clampWith limits).onCopy p)
        fun q => [.jointProjection q]
  | data {field : JointField} (p : JointProjection α field) :
      ReadsJointProjection [.jointProjection p] p.data fun _ => []
  | differentiatePositions (p : JointPositions α) (dt : Duration) (now : Instant) :
      ReadsJointProjection [.jointProjection p] (p.differentiate dt now)
        fun v => [.jointProjection v]
  | integrateVelocities (v : JointVelocities α) (dt : Duration) (now : Instant) :
      ReadsJointProjection [.jointProjection v] (v.integrate dt now)
        fun p => [.jointProjection p]
  | differentiateVelocities (v : JointVelocities α) (dt : Duration) (now : Instant) :
      ReadsJointProjection [.jointProjection v] (v.differentiate dt now)
        fun a => [.jointProjection a]
  | integrateAccelerations (a : JointAccelerations α) (dt : Duration) (now : Instant) :
      ReadsJointProjection [.jointProjection a] (a.integrate dt now)
        fun v => [.jointProjection v]

inductive ReadsParameter :
    List (Value α) → {β : Type} → Except (StateError α) β → (β → List (Value α)) → Prop
  | value (p : Parameter α) (hp : p.Built) : ReadsParameter [.parameter p] p.value fun _ => []
  | get (p : Parameter α) (hp : p.Built) (type : ParameterType) :
      ReadsParameter [.parameter p] (p.get type) fun _ => []
  | lookup (m : ParameterMap α) {p : Parameter α} (hp : p.Built) {name : String}
      (hm : m.find? name = some p) (type : ParameterType) :
      ReadsParameter [.parameter p] (m.value name type) fun _ => []

inductive ReadsShape :
    List (Value α) → {β : Type} → Except (StateError α) β → (β → List (Value α)) → Prop
  | setCenter (s : Shape α) (pose : CartesianPose α) :
      ReadsShape [.projection pose] ((Shape.setCenter pose).onCopy s) fun t => [.shape t]
  | setEllipsoidCenter (e : Ellipsoid α) (pose : CartesianPose α) :
      ReadsShape [.projection pose] ((Ellipsoid.setCenter pose).onCopy e) fun t => [.ellipsoid t]
  | data (e : Ellipsoid α) : ReadsShape [.ellipsoid e] e.toList fun _ => []
  | rotation (e : Ellipsoid α) (now : Instant) :
      ReadsShape [.ellipsoid e] (e.rotation now) fun p => [.projection p]
  | samples (e : Ellipsoid α) (count : Nat) (now : Instant) :
      ReadsShape [.ellipsoid e, .projection e.center] (e.samples count now)
        fun poses => poses.map .projection

/-- The operations that read the numbers of their operands, or the values that these store, with
their outcome. The last argument lists the values that a success computes, which for a change in
place is the changed one. The numbers of single joints are not among what is read. -/
inductive Reads (operands : List (Value α)) {β : Type} (outcome : Except (StateError α) β)
    (computed : β → List (Value α)) : Prop
  | cartesian (h : ReadsCartesian operands outcome computed) : Reads operands outcome computed
  | projection (h : ReadsProjection operands outcome computed) : Reads operands outcome computed
  | joint (h : ReadsJoint operands outcome computed) : Reads operands outcome computed
  | jointProjection (h : ReadsJointProjection operands outcome computed) :
      Reads operands outcome computed
  | parameter (h : ReadsParameter operands outcome computed) : Reads operands outcome computed
  | shape (h : ReadsShape operands outcome computed) : Reads operands outcome computed

end Operations

section Stored
variable {α : Type} {p : Parameter α}

theorem Parameter.filled_of_value (hp : p.Built) {v : ParameterValue α} (h : p.value = .ok v) :
    p.empty = false := by
  rw [← hp.consistent.filled_iff]
  unfold value at h
  split at h
  case h_1 v hv => simp [hv]
  case h_2 => cases h

theorem Parameter.filled_of_get (hp : p.Built) {type : ParameterType} {x : type.Payload α}
    (h : p.get type = .ok x) : p.empty = false := by
  obtain ⟨v, hv, -⟩ := exists_of_bind_eq_ok h
  exact filled_of_value hp hv

theorem Shape.setCenter_settles_filled (s : Shape α) (pose : CartesianPose α) :
    (setCenter pose).Settles s fun t => pose.general.empty = false ∧ t.empty = false :=
  .assertFilled_bind (.modify rfl)

theorem Ellipsoid.setCenter_settles_filled (e : Ellipsoid α) (pose : CartesianPose α) :
    (setCenter pose).Settles e fun t => pose.general.empty = false ∧ t.empty = false := by
  refine ((Shape.setCenter_settles_filled e.toShape pose).within rfl).mono ?_
  rintro _ ⟨s, hs, rfl⟩
  exact hs

variable [Scalar α] {e : Ellipsoid α} {now : Instant}

theorem Ellipsoid.filled_of_rotation {pose : CartesianPose α} (h : e.rotation now = .ok pose) :
    e.empty = false ∧ pose.general.empty = false := by
  obtain ⟨he, h⟩ := State.of_assertFilled_bind_eq_ok h
  cases h
  exact ⟨he, rfl⟩

/-- Without a single sample, too, the center is turned. -/
theorem Ellipsoid.filled_of_samples {count : Nat} {poses : List (CartesianPose α)}
    (h : e.samples count now = .ok poses) :
    (e.empty = false ∧ e.center.general.empty = false) ∧
      ∀ pose ∈ poses, pose.general.empty = false := by
  obtain ⟨rotation, hrotation, h⟩ := exists_of_bind_eq_ok h
  obtain ⟨turned, hturned, h⟩ := exists_of_bind_eq_ok h
  obtain ⟨he, -⟩ := filled_of_rotation hrotation
  obtain ⟨hcenter, -⟩ := CartesianPose.filled_of_compose hturned
  refine ⟨⟨he, hcenter⟩, fun pose hpose => ?_⟩
  obtain ⟨i, -, hi⟩ := exists_of_mapM_eq_ok h hpose
  exact (CartesianPose.filled_of_compose hi).2.2

end Stored

/-- A success has read filled values only, and has computed such. -/
def OfFilled {α β : Type} (operands : List (Value α)) (outcome : Except (StateError α) β)
    (computed : β → List (Value α)) : Prop :=
  ∀ x, outcome = .ok x → (∀ u ∈ operands, u.empty = false) ∧ ∀ v ∈ computed x, v.empty = false

namespace OfFilled
variable {α β : Type} {outcome : Except (StateError α) β} {u v : Value α} {f : β → Value α}

theorem of_one (h : ∀ x, outcome = .ok x → u.empty = false) :
    OfFilled [u] outcome fun _ => [] :=
  fun x hx => ⟨List.forall_mem_singleton.mpr (h x hx), fun _ hv => absurd hv List.not_mem_nil⟩

theorem of_two (h : ∀ x, outcome = .ok x → u.empty = false ∧ v.empty = false) :
    OfFilled [u, v] outcome fun _ => [] := by
  intro x hx
  obtain ⟨hu, hv⟩ := h x hx
  exact ⟨List.forall_mem_cons.mpr ⟨hu, List.forall_mem_singleton.mpr hv⟩,
    fun _ hv => absurd hv List.not_mem_nil⟩

theorem of_one_computed (h : ∀ x, outcome = .ok x → u.empty = false ∧ (f x).empty = false) :
    OfFilled [u] outcome fun x => [f x] :=
  fun x hx => (h x hx).imp List.forall_mem_singleton.mpr List.forall_mem_singleton.mpr

/-- `g` makes values of the operands. -/
theorem of_map {σ : Type} {g : σ → Value α} {operands : List σ}
    (h : ∀ x, outcome = .ok x → (∀ o ∈ operands, (g o).empty = false) ∧ (f x).empty = false) :
    OfFilled (operands.map g) outcome fun x => [f x] :=
  fun x hx => (h x hx).imp List.forall_mem_map.mpr List.forall_mem_singleton.mpr

end OfFilled

section Filled
variable {α β : Type} [Scalar α] {operands : List (Value α)} {outcome : Except (StateError α) β}
  {computed : β → List (Value α)}

theorem ReadsCartesian.ofFilled (h : ReadsCartesian operands outcome computed) :
    OfFilled operands outcome computed := by
  cases h with
  | operate s op => exact .of_map fun _ => CartesianState.Operation.filled_of_apply
  | multiply s gain selection =>
    exact .of_one_computed fun _ =>
      (CartesianState.multiply_settles_filled s gain selection).onCopy
  | clamp s bound selection ratio =>
    exact .of_one_computed fun _ =>
      (CartesianState.clamp_settles_filled s bound selection ratio).onCopy
  | data s => exact .of_one fun _ => CartesianState.filled_of_data
  | norms s selection => exact .of_one fun _ => CartesianState.filled_of_norms
  | dist a b selection => exact .of_two fun _ => CartesianState.filled_of_dist

theorem ReadsProjection.ofFilled (h : ReadsProjection operands outcome computed) :
    OfFilled operands outcome computed := by
  cases h with
  | operate p op => exact .of_map fun _ => CartesianProjection.Operation.filled_of_apply
  | clamp p limits =>
    exact .of_one_computed fun _ => (CartesianScrew.clamp_settles_filled p limits).onCopy
  | clampWith p limits =>
    exact .of_one_computed fun _ => (CartesianScrew.clampWith_settles_filled p limits).onCopy
  | data p => exact .of_one fun _ => CartesianProjection.filled_of_data
  | compose p q now =>
    intro r hr
    obtain ⟨hp, hq, hr⟩ := CartesianPose.filled_of_compose hr
    exact ⟨List.forall_mem_cons.mpr ⟨hp, List.forall_mem_singleton.mpr hq⟩,
      List.forall_mem_singleton.mpr hr⟩
  | toIsometry p => exact .of_one fun _ => CartesianPose.filled_of_toIsometry
  | transform p v => exact .of_one fun _ => CartesianPose.filled_of_transform
  | differentiatePose p dt now =>
    exact .of_one_computed fun _ => CartesianPose.filled_of_differentiate
  | integrateTwist t | poseOfTwist t =>
    exact .of_one_computed fun _ => CartesianTwist.filled_of_integrate
  | differentiateTwist t | accelerationOfTwist t =>
    exact .of_one_computed fun _ => CartesianTwist.filled_of_differentiate
  | integrateAcceleration a dt now =>
    exact .of_one_computed fun _ => CartesianAcceleration.filled_of_integrate

theorem ReadsJoint.ofFilled (h : ReadsJoint operands outcome computed) :
    OfFilled operands outcome computed := by
  cases h with
  | operate s op => exact .of_map fun _ => JointState.Operation.filled_of_apply
  | clamp s bound selection ratio =>
    exact .of_one_computed fun _ =>
      (JointState.clamp_settles_filled s bound selection ratio).onCopy
  | clampEach s bounds selection ratios =>
    exact .of_one_computed fun _ =>
      (JointState.clampEach_settles_filled s bounds selection ratios).onCopy
  | multiply s gain selection =>
    exact .of_one_computed fun _ => (JointState.multiply_settles_filled s gain selection).onCopy
  | multiplyEach s gain selection =>
    exact .of_one_computed fun _ =>
      (JointState.multiplyEach_settles_filled s gain selection).onCopy
  | data s => exact .of_one fun _ => JointState.filled_of_data
  | dist a b selection => exact .of_two fun _ => JointState.filled_of_dist

theorem ReadsJointProjection.ofFilled (h : ReadsJointProjection operands outcome computed) :
    OfFilled operands outcome computed := by
  cases h with
  | operate p op => exact .of_map fun _ => JointProjection.Operation.filled_of_apply
  | clamp p bound ratio =>
    exact .of_one_computed fun _ => (JointProjection.clamp_settles_filled p bound ratio).onCopy
  | clampEach p bounds ratios =>
    exact .of_one_computed fun _ =>
      (JointProjection.clampEach_settles_filled p bounds ratios).onCopy
  | clampWith p limits =>
    exact .of_one_computed fun _ => (JointProjection.clampWith_settles_filled p limits).onCopy
  | data p => exact .of_one fun _ => JointProjection.filled_of_data
  | differentiatePositions | differentiateVelocities =>
    exact .of_one_computed fun _ => JointProjection.filled_of_rateOfChange
  | integrateVelocities | integrateAccelerations =>
    exact .of_one_computed fun _ => JointProjection.filled_of_accumulated

omit [Scalar α] in
theorem ReadsParameter.ofFilled (h : ReadsParameter operands outcome computed) :
    OfFilled operands outcome computed := by
  cases h with
  | value p hp => exact .of_one fun _ => Parameter.filled_of_value hp
  | get p hp type => exact .of_one fun _ => Parameter.filled_of_get hp
  | lookup m hp hm type =>
    rw [ParameterMap.value, ParameterMap.parameter, hm]
    exact .of_one fun _ => Parameter.filled_of_get hp

theorem ReadsShape.ofFilled (h : ReadsShape operands outcome computed) :
    OfFilled operands outcome computed := by
  cases h with
  | setCenter s pose =>
    exact .of_one_computed fun _ => (Shape.setCenter_settles_filled s pose).onCopy
  | setEllipsoidCenter e pose =>
    exact .of_one_computed fun _ => (Ellipsoid.setCenter_settles_filled e pose).onCopy
  | data e => exact .of_one fun _ he => (State.of_assertFilled_bind_eq_ok he).1
  | rotation e now => exact .of_one_computed fun _ => Ellipsoid.filled_of_rotation
  | samples e count now =>
    intro poses hposes
    obtain ⟨⟨he, hcenter⟩, hposes⟩ := Ellipsoid.filled_of_samples hposes
    exact ⟨List.forall_mem_cons.mpr ⟨he, List.forall_mem_singleton.mpr hcenter⟩,
      List.forall_mem_map.mpr hposes⟩

theorem Reads.ofFilled (h : Reads operands outcome computed) :
    OfFilled operands outcome computed := by
  cases h with
  | cartesian h | projection h | joint h | jointProjection h | parameter h | shape h =>
    exact h.ofFilled

theorem Reads.refused (h : Reads operands outcome computed) (hempty : ∃ u ∈ operands, u.empty) :
    ∃ e, outcome = .error e := by
  refine exists_eq_error_of_not (fun x hx => (h.ofFilled x hx).1) fun hfilled => ?_
  obtain ⟨u, hu, hempty⟩ := hempty
  exact Bool.eq_false_iff.mp (hfilled u hu) hempty

end Filled

/-- Whatever reads an empty operand is refused. The numbers of single joints, however, are answered
of all joints that there are, whether the state is empty or not. -/
theorem empty_operands_refused {α : Type} [Scalar α] :
    (∀ {operands : List (Value α)} {β : Type} {outcome : Except (StateError α) β}
        {computed : β → List (Value α)}, Reads operands outcome computed →
      (∃ u ∈ operands, u.empty) → ∃ e, outcome = .error e) ∧
    ∀ s : JointState α, s.Sized → ∀ field,
      (∀ index, (∃ x, s.valueAt field index = .ok x) ↔ index < s.size) ∧
      ∀ joint, (∃ x, s.value field joint = .ok x) ↔ joint ∈ s.names :=
  ⟨fun h => h.refused, fun _ hs _ =>
    ⟨fun _ => hs.exists_valueAt_iff, fun _ => hs.exists_value_iff⟩⟩

/-- An empty camera cannot be taken along by a tool, and an empty arm not be scaled, but its elbow
has a torque. -/
theorem empty_operands_refused_elbow :
    let tool : CartesianPose Float := .identity "tool" "base" ⟨0⟩
    let camera : CartesianPose Float := .new .pose "camera" "tool" ⟨1⟩
    let arm : JointState Float := .new "arm" ["shoulder", "elbow"] ⟨2⟩
    (∃ e, tool.compose camera ⟨3⟩ = .error e) ∧ (∃ e, arm.scale 2 = .error e) ∧
      (∃ x, arm.value .torques "elbow" = .ok x) ∧ ¬∃ x, arm.valueAt .torques 2 = .ok x := by
  intro tool camera arm
  obtain ⟨hrefused, hsingle⟩ := @empty_operands_refused Float _
  have hcompose : Reads [.projection tool, .projection camera] (tool.compose camera ⟨3⟩) _ :=
    .projection (.compose tool camera ⟨3⟩)
  have hscale : Reads [.joint arm] (arm.scale 2) _ := .joint (.operate arm (.scale 2))
  have harm : arm.Sized := .ofType .jointState "arm" ["shoulder", "elbow"] ⟨2⟩
  obtain ⟨hindex, hname⟩ := hsingle arm harm .torques
  refine ⟨hrefused hcompose ⟨.projection camera, by simp, rfl⟩,
    hrefused hscale ⟨.joint arm, by simp, rfl⟩, (hname "elbow").mpr (by decide), fun hbeyond => ?_⟩
  exact absurd ((hindex 2).mp hbeyond) (by decide)

/-- A state without a single measurement answers zero. -/
theorem empty_state_answers_zero :
    let arm : JointState Float := .new "arm" ["elbow"] ⟨0⟩
    arm.empty = true ∧ arm.value .positions "elbow" = .ok 0 ∧ arm.valueAt .positions 0 = .ok 0 ∧
      ¬((∃ e, arm.value .positions "elbow" = .error e) ∧
        ∃ e, arm.valueAt .positions 0 = .error e) := by
  intro arm
  have hname : arm.value .positions "elbow" = .ok 0 := rfl
  have hindex : arm.valueAt .positions 0 = .ok 0 := rfl
  refine ⟨rfl, hname, hindex, ?_⟩
  rintro ⟨-, e, he⟩
  cases hindex.symm.trans he

end Kinematics
