import Kinematics.Proofs.Cartesian.Motion
import Kinematics.Proofs.Cartesian.Change
import Kinematics.Proofs.Cartesian.Confined
import Kinematics.Proofs.Cartesian.Sum
import Kinematics.Proofs.Rotation.Unit

/-!
# Orientations stay unit quaternions

The orientation of a state is written as raw coefficients, as a product, a conjugate, an exponential
or with the other sign. Each of these ways leads from rotations to a rotation.
-/

namespace Kinematics

namespace CartesianValues
variable {v u : CartesianValues ℝ}

theorem isRotation_write {fields : List CartesianField} {data : List ℝ}
    (hv : v.orientation.IsRotation) (h : write fields data v = .ok u) :
    u.orientation.IsRotation := by
  induction fields, data, v using write.induct with
  | case1 field fields x y z data v ih =>
    rw [write] at h
    exact ih hv h
  | case2 fields w x y z data v ih =>
    rw [write] at h
    obtain ⟨q, hq, h⟩ := exists_of_bind_eq_ok h
    exact ih q (Quaternion.isRotation_of_unit hq) h
  | case3 fields data v hvector horientation =>
    rw [write] at h
    · cases h
      exact hv
    all_goals assumption

theorem isRotation_restrict (hv : v.orientation.IsRotation) (fields : List CartesianField) :
    (v.restrict fields).orientation.IsRotation := by
  rw [orientation_restrict]
  split
  · exact hv
  · exact .identity

end CartesianValues

namespace CartesianState
variable {s t : CartesianState ℝ}

/-- The orientation is a unit quaternion. -/
def Oriented (s : CartesianState ℝ) : Prop := s.values.orientation.IsRotation

theorem Rewritten.oriented {selection : CartesianSelection} (h : s.Rewritten selection t)
    (hs : s.Oriented) : t.Oriented := by
  obtain ⟨data, values, hvalues, rfl⟩ := h
  exact CartesianValues.isRotation_write hs hvalues

theorem oriented_of_combine {subtract : Bool} {a b : CartesianState ℝ} (ha : a.Oriented)
    (hb : b.Oriented) (h : combine subtract a b = .ok t) : t.Oriented := by
  obtain ⟨-, -, h⟩ := exists_of_bind_eq_ok h
  obtain ⟨-, -, h⟩ := exists_of_bind_eq_ok h
  obtain ⟨-, -, h⟩ := exists_of_bind_eq_ok h
  cases h
  exact isRotation_sum subtract ha hb

theorem oriented_of_compose {a b : CartesianState ℝ} {now : Instant} (ha : a.Oriented)
    (hb : b.Oriented) (h : a.compose b now = .ok t) : t.Oriented := by
  obtain ⟨-, -, -, rfl⟩ := compose_eq_ok_iff.mp h
  exact CartesianValues.isRotation_compose ha hb

theorem oriented_of_inverse (hs : s.Oriented) (h : s.inverse = .ok t) : t.Oriented := by
  obtain ⟨-, -, h⟩ := exists_of_bind_eq_ok h
  cases h
  exact hs.conjugate

theorem oriented_of_negate (hs : s.Oriented) (h : s.negate = .ok t) : t.Oriented := by
  obtain ⟨-, -, h⟩ := exists_of_bind_eq_ok h
  cases h
  exact hs.conjugate

theorem oriented_of_normalize {selection : CartesianSelection} (hs : s.Oriented)
    (h : s.normalize selection = .ok t) : t.Oriented := by
  obtain ⟨-, -, h⟩ := exists_of_bind_eq_ok h
  cases h
  exact hs

/-- The turn is taken anew from the exponential, so that the factor may be any number. -/
theorem oriented_of_scale {k : ℝ} (h : s.scale k = .ok t) : t.Oriented := by
  obtain ⟨-, -, h⟩ := exists_of_bind_eq_ok h
  cases h
  exact Quaternion.isRotation_exp _ k

theorem oriented_of_divide {k : ℝ} (h : s.divide k = .ok t) : t.Oriented := by
  unfold divide at h
  split at h
  · cases h
  · exact oriented_of_scale h

theorem Operation.oriented_of_apply {op : Operation ℝ} (hs : s.Oriented)
    (hoperands : ∀ o ∈ op.operands, o.Oriented) (h : op.apply s = .ok t) : t.Oriented := by
  cases op with
  | compose other now =>
    exact oriented_of_compose hs (hoperands other (List.mem_singleton.mpr rfl)) h
  | inverse => exact oriented_of_inverse hs h
  | add other => exact oriented_of_combine hs (hoperands other (List.mem_singleton.mpr rfl)) h
  | sub other => exact oriented_of_combine hs (hoperands other (List.mem_singleton.mpr rfl)) h
  | negate => exact oriented_of_negate hs h
  | scale k => exact oriented_of_scale h
  | divide k => exact oriented_of_divide h
  | normalize selection => exact oriented_of_normalize hs h

theorem oriented_random {γ : Type} [RandomGen γ] (name frame : String) (now : Instant) (g : γ) :
    ((random name frame now : StateM γ (CartesianState ℝ)).run g).1.Oriented := by
  obtain ⟨g', hdrawn⟩ : ∃ g' : γ,
      ((random name frame now : StateM γ (CartesianState ℝ)).run g).1.values.orientation =
        ((Quaternion.random : StateM γ (Quaternion ℝ)).run g').1 := ⟨_, rfl⟩
  rw [Oriented, hdrawn]
  exact Quaternion.isRotation_random g'

end CartesianState

namespace CartesianProjection
variable {kind : CartesianKind} {p q : CartesianProjection ℝ kind}

def Oriented (p : CartesianProjection ℝ kind) : Prop := p.general.Oriented

theorem oriented_project {s : CartesianState ℝ} (hs : s.Oriented) (kind : CartesianKind) :
    (s.project kind).Oriented :=
  CartesianValues.isRotation_restrict hs _

/-- All operations that yield a projection project what the general operation yields. -/
theorem oriented_of_project {result : Except (StateError ℝ) (CartesianState ℝ)}
    (hresult : ∀ s, result = .ok s → s.Oriented)
    (h : (return (← result).project kind) = Except.ok p) : p.Oriented := by
  obtain ⟨s, hs, h⟩ := exists_of_bind_eq_ok h
  cases h
  exact oriented_project (hresult s hs) kind

theorem oriented_of_setData {data : List ℝ} (hp : p.Oriented)
    (h : (setData data).onCopy p = .ok q) : q.Oriented := by
  have hkeeps : (setData data : Edit ℝ (CartesianProjection ℝ kind) Unit).Keeps Oriented :=
    .of_settles fun p hp =>
      (lift_settles (CartesianState.write_settles kind.selection data)).mono
        fun q hq => CartesianState.Rewritten.oriented hq hp
  exact hkeeps.onCopy hp h

end CartesianProjection

namespace CartesianScrew
variable {kind : ScrewKind} {s t : CartesianScrew ℝ kind}

theorem Rewritten.oriented (h : s.Rewritten t) (hs : s.Oriented) : t.Oriented := by
  obtain ⟨middle, hlinear, hangular⟩ := h
  exact hangular.oriented (hlinear.oriented hs)

theorem oriented_of_clamped {limits : CartesianLimits ℝ} (hs : s.Oriented)
    (h : (clamp limits).onCopy s = .ok t) : t.Oriented := by
  have hkeeps : (clamp limits : Edit ℝ (CartesianScrew ℝ kind) Unit).Keeps
      CartesianProjection.Oriented :=
    .of_settles fun s hs => (clamp_settles s limits).mono fun t ht => ht.oriented hs
  exact hkeeps.onCopy hs h

theorem oriented_of_scaleByMatrix {gain : Fin 6 → Fin 6 → ℝ} (hs : s.Oriented)
    (h : s.scaleByMatrix gain = .ok t) : t.Oriented := by
  obtain ⟨-, -, h⟩ := exists_of_bind_eq_ok h
  split at h
  · cases h
    exact hs
  · exact CartesianProjection.oriented_of_setData hs h

end CartesianScrew

namespace CartesianProjection
variable {kind : CartesianKind} {p q : CartesianProjection ℝ kind}
open CartesianState (oriented_of_combine oriented_of_inverse oriented_of_negate oriented_of_scale
  oriented_of_divide oriented_of_normalize)

theorem Operation.oriented_of_apply {op : Operation ℝ kind} (hp : p.Oriented)
    (hoperands : ∀ o ∈ op.operands, o.Oriented) (h : op.apply p = .ok q) : q.Oriented := by
  cases op with
  | inverse => exact oriented_of_project (fun _ hs => oriented_of_inverse hp hs) h
  | add other =>
    have hother := hoperands other (List.mem_singleton.mpr rfl)
    exact oriented_of_project (fun _ hs => oriented_of_combine hp hother hs) h
  | sub other =>
    have hother := hoperands other (List.mem_singleton.mpr rfl)
    exact oriented_of_project (fun _ hs => oriented_of_combine hp hother hs) h
  | negate => exact oriented_of_project (fun _ hs => oriented_of_negate hp hs) h
  | scale k => exact oriented_of_project (fun _ hs => oriented_of_scale hs) h
  | divide k => exact oriented_of_project (fun _ hs => oriented_of_divide hs) h
  | normalize selection => exact oriented_of_project (fun _ hs => oriented_of_normalize hp hs) h
  | clamped limits => exact CartesianScrew.oriented_of_clamped hp h
  | scaleByMatrix gain => exact CartesianScrew.oriented_of_scaleByMatrix hp h

end CartesianProjection

/-- A pose composes with projections of every kind. -/
theorem CartesianPose.oriented_of_compose {kind : CartesianKind} {p : CartesianPose ℝ}
    {q r : CartesianProjection ℝ kind} {now : Instant} (hp : p.Oriented) (hq : q.Oriented)
    (h : p.compose q now = .ok r) : r.Oriented :=
  CartesianProjection.oriented_of_project
    (fun _ hs => CartesianState.oriented_of_compose hp hq hs) h

section Time
variable {pose : CartesianPose ℝ} {twist : CartesianTwist ℝ}
  {acceleration : CartesianAcceleration ℝ} {dt : Duration} {now : Instant}

theorem CartesianPose.oriented_of_differentiate (h : pose.differentiate dt now = .ok twist) :
    twist.Oriented := by
  obtain ⟨-, -, h⟩ := exists_of_bind_eq_ok h
  obtain ⟨seconds, -, h⟩ := exists_of_bind_eq_ok h
  cases h
  exact .identity

/-- The pose is turned by an exponential, whatever the twist. -/
theorem CartesianTwist.oriented_of_integrate (h : twist.integrate dt now = .ok pose) :
    pose.Oriented := by
  obtain ⟨-, -, h⟩ := exists_of_bind_eq_ok h
  cases h
  exact Quaternion.isRotation_exp _ _

theorem CartesianTwist.oriented_of_differentiate
    (h : twist.differentiate dt now = .ok acceleration) : acceleration.Oriented := by
  obtain ⟨-, -, h⟩ := exists_of_bind_eq_ok h
  obtain ⟨seconds, -, h⟩ := exists_of_bind_eq_ok h
  cases h
  exact .identity

theorem CartesianAcceleration.oriented_of_integrate
    (h : acceleration.integrate dt now = .ok twist) : twist.Oriented := by
  obtain ⟨-, -, h⟩ := exists_of_bind_eq_ok h
  cases h
  exact .identity

end Time
end Kinematics
