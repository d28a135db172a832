import Kinematics.Proofs.Cartesian.Change
import Kinematics.Proofs.Cartesian.Outcome

/-!
# Only filled Cartesian states are read

What reads the numbers of a Cartesian state or of a projection returns only when that is filled, and
the states that it yields are filled.
-/

namespace Kinematics

namespace CartesianState
variable {α : Type} [Scalar α] {s t : CartesianState α}

theorem Rewritten.filled {selection : CartesianSelection} (h : s.Rewritten selection t) :
    t.empty = false := by
  obtain ⟨data, values, -, rfl⟩ := h
  rfl

omit [Scalar α] in
theorem Yields.filled {outcome : Except (StateError α) (CartesianState α)} {c : Prop}
    (h : Yields outcome s c) (hs : s.empty = false) (ht : outcome = .ok t) : t.empty = false :=
  (congrArg (·.empty) (h.identity ht)).trans hs

theorem filled_of_combine {subtract : Bool} {a b : CartesianState α}
    (h : combine subtract a b = .ok t) :
    a.empty = false ∧ b.empty = false ∧ t.empty = false := by
  have hyields := yields_combine subtract a b
  obtain ⟨ha, hb, -⟩ := hyields.holds h
  exact ⟨ha, hb, hyields.filled ha h⟩

omit [Scalar α] in
theorem filled_of_revalue {values : CartesianValues α}
    (h : (do s.assertFilled; return { s with values } : Except (StateError α) _) = .ok t) :
    s.empty = false ∧ t.empty = false := by
  have hyields := yields_of_filled (s := s) values
  exact ⟨hyields.holds h, hyields.filled (hyields.holds h) h⟩

theorem filled_of_divide {k : α} (h : s.divide k = .ok t) :
    s.empty = false ∧ t.empty = false := by
  have hyields := yields_divide s k
  obtain ⟨hs, -⟩ := hyields.holds h
  exact ⟨hs, hyields.filled hs h⟩

theorem filled_of_inverse (h : s.inverse = .ok t) : s.empty = false ∧ t.empty = false := by
  obtain ⟨hs, h⟩ := State.of_assertFilled_bind_eq_ok h
  cases h
  exact ⟨hs, hs⟩

theorem filled_of_compose {a b : CartesianState α} {now : Instant} (h : a.compose b now = .ok t) :
    a.empty = false ∧ b.empty = false ∧ t.empty = false := by
  obtain ⟨ha, h⟩ := State.of_assertFilled_bind_eq_ok h
  obtain ⟨hb, h⟩ := State.of_assertFilled_bind_eq_ok h
  obtain ⟨-, h⟩ := of_guard_eq_ok h
  cases h
  exact ⟨ha, hb, rfl⟩

theorem Operation.filled_of_apply {op : Operation α} (h : op.apply s = .ok t) :
    (∀ o ∈ s :: op.operands, o.empty = false) ∧ t.empty = false := by
  have hone {o : CartesianState α} (ho : o.empty = false) : ∀ o' ∈ [o], o'.empty = false :=
    List.forall_mem_singleton.mpr ho
  cases op with
  | compose other now =>
    obtain ⟨hs, hother, ht⟩ := filled_of_compose h
    exact ⟨List.forall_mem_cons.mpr ⟨hs, hone hother⟩, ht⟩
  | add other | sub other =>
    obtain ⟨hs, hother, ht⟩ := filled_of_combine h
    exact ⟨List.forall_mem_cons.mpr ⟨hs, hone hother⟩, ht⟩
  | inverse => exact (filled_of_inverse h).imp_left hone
  | negate | scale | normalize => exact (filled_of_revalue h).imp_left hone
  | divide k => exact (filled_of_divide h).imp_left hone

theorem multiply_settles_filled (s : CartesianState α) (gain : DenseMatrix α)
    (selection : CartesianSelection) :
    (multiply gain selection).Settles s fun t => s.empty = false ∧ t.empty = false := by
  refine .ite (fun _ => .throw_bind _ _) fun _ => .get_bind <| .assertFilled_bind ?_
  exact .ite (fun _ => .throw_bind _ _) fun _ => .ite (fun _ => .throw_bind _ _) fun _ =>
    (write_settles selection _).mono fun _ => (·.filled)

theorem clamp_settles_filled (s : CartesianState α) (bound : α) (selection : CartesianSelection)
    (ratio : α) :
    (clamp bound selection ratio).Settles s fun t => s.empty = false ∧ t.empty = false := by
  refine .ite (fun _ => .throw_bind _ _) fun _ => .get_bind <| .assertFilled_bind ?_
  exact (write_settles selection _).mono fun _ => (·.filled)

omit [Scalar α] in
theorem filled_of_data {xs : List α} (h : s.data = .ok xs) : s.empty = false :=
  (State.of_assertFilled_bind_eq_ok h).1

theorem filled_of_norms {selection : CartesianSelection} {xs : List α}
    (h : s.norms selection = .ok xs) : s.empty = false :=
  (State.of_assertFilled_bind_eq_ok h).1

theorem filled_of_dist {selection : CartesianSelection} {x : α} (h : s.dist t selection = .ok x) :
    s.empty = false ∧ t.empty = false := by
  obtain ⟨hs, h⟩ := State.of_assertFilled_bind_eq_ok h
  exact ⟨hs, (State.of_assertFilled_bind_eq_ok h).1⟩

end CartesianState

section Screw
variable {α : Type} [Scalar α] {kind : ScrewKind}

theorem CartesianScrew.Rewritten.filled {p q : CartesianScrew α kind}
    (h : CartesianScrew.Rewritten p q) : q.general.empty = false := by
  obtain ⟨s, -, hq⟩ := h
  exact hq.filled

/-- The first of the two bounds asks for a filled screw. -/
theorem CartesianScrew.clamp_settles_filled (p : CartesianScrew α kind)
    (limits : CartesianLimits α) :
    (CartesianScrew.clamp limits).Settles p fun q =>
      p.general.empty = false ∧ q.general.empty = false := by
  have hlinear := CartesianProjection.lift_settles (CartesianState.clamp_settles_filled p.general
    limits.maxLinear kind.linear.selection limits.linearRatio)
  refine hlinear.bind fun q ⟨hp, hq⟩ => ?_
  obtain ⟨r, hr, hrewritten⟩ := CartesianProjection.lift_succeeds
    (CartesianState.clamp_succeeds hq limits.maxAngular kind.angular limits.angularRatio)
  exact ⟨r, hr, hp, hrewritten.filled⟩

theorem CartesianScrew.clampWith_settles_filled (p : CartesianScrew α kind)
    (limits : CartesianLimits α) :
    (CartesianScrew.clampWith limits).Settles p fun q =>
      p.general.empty = false ∧ q.general.empty = false :=
  .require_bind fun _ _ => clamp_settles_filled p limits

theorem CartesianScrew.filled_of_scaleByMatrix {p q : CartesianScrew α kind}
    {gain : Fin 6 → Fin 6 → α} (h : CartesianScrew.scaleByMatrix p gain = .ok q) :
    p.general.empty = false ∧ q.general.empty = false := by
  obtain ⟨hp, h⟩ := State.of_assertFilled_bind_eq_ok h
  split at h
  case isTrue =>
    cases h
    exact ⟨hp, rfl⟩
  case isFalse =>
    have hq : p.general.Rewritten _ q.general :=
      (CartesianProjection.lift_settles (CartesianState.write_settles _ _)).onCopy h
    exact ⟨hp, hq.filled⟩

end Screw

namespace CartesianProjection
open CartesianState (filled_of_combine filled_of_divide filled_of_inverse filled_of_revalue)
variable {α : Type} [Scalar α] {kind : CartesianKind}

omit [Scalar α] in
theorem filled_of_data {p : CartesianProjection α kind} {xs : List α} (h : p.data = .ok xs) :
    p.general.empty = false :=
  (State.of_assertFilled_bind_eq_ok h).1

/-- A projection is as empty as the state. -/
theorem filled_of_project {q : CartesianProjection α kind} {c : Prop}
    {result : Except (StateError α) (CartesianState α)}
    (hresult : ∀ s, result = .ok s → c ∧ s.empty = false)
    (h : (return (← result).project kind) = Except.ok q) : c ∧ q.general.empty = false := by
  obtain ⟨s, hs, h⟩ := exists_of_bind_eq_ok h
  cases h
  exact hresult s hs

theorem Operation.filled_of_apply {p q : CartesianProjection α kind} {op : Operation α kind}
    (h : op.apply p = .ok q) :
    (∀ o ∈ p :: op.operands, o.general.empty = false) ∧ q.general.empty = false := by
  have hone {o : CartesianProjection α kind} (ho : o.general.empty = false) :
      ∀ o' ∈ [o], o'.general.empty = false :=
    List.forall_mem_singleton.mpr ho
  cases op with
  | add other | sub other =>
    obtain ⟨⟨hp, hother⟩, hq⟩ := filled_of_project
      (fun s hs => and_assoc.mpr (filled_of_combine hs)) h
    exact ⟨List.forall_mem_cons.mpr ⟨hp, hone hother⟩, hq⟩
  | inverse => exact (filled_of_project (fun _ => filled_of_inverse) h).imp_left hone
  | negate | scale | normalize =>
    exact (filled_of_project (fun _ => filled_of_revalue) h).imp_left hone
  | divide k => exact (filled_of_project (fun _ => filled_of_divide) h).imp_left hone
  | clamped limits => exact ((CartesianScrew.clamp_settles_filled p limits).onCopy h).imp_left hone
  | scaleByMatrix gain => exact (CartesianScrew.filled_of_scaleByMatrix h).imp_left hone

end CartesianProjection

section Pose
variable {α : Type} {p : CartesianPose α}

theorem CartesianPose.filled_of_toIsometry {m : Isometry α} (h : p.toIsometry = .ok m) :
    p.general.empty = false :=
  (State.of_assertFilled_bind_eq_ok h).1

variable [Scalar α] {dt : Duration} {now : Instant}

theorem CartesianPose.filled_of_transform {v w : Vector3 α} (h : p.transform v = .ok w) :
    p.general.empty = false :=
  (State.of_assertFilled_bind_eq_ok h).1

theorem CartesianPose.filled_of_compose {kind : CartesianKind} {q r : CartesianProjection α kind}
    (h : p.compose q now = .ok r) :
    p.general.empty = false ∧ q.general.empty = false ∧ r.general.empty = false :=
  and_assoc.mp <| CartesianProjection.filled_of_project
    (fun _ hs => and_assoc.mpr (CartesianState.filled_of_compose hs)) h

theorem CartesianPose.filled_of_differentiate {t : CartesianTwist α}
    (h : p.differentiate dt now = .ok t) : p.general.empty = false ∧ t.general.empty = false := by
  obtain ⟨hp, h⟩ := State.of_assertFilled_bind_eq_ok h
  obtain ⟨seconds, -, h⟩ := exists_of_bind_eq_ok h
  cases h
  exact ⟨hp, rfl⟩

theorem CartesianTwist.filled_of_integrate {t : CartesianTwist α}
    (h : t.integrate dt now = .ok p) : t.general.empty = false ∧ p.general.empty = false := by
  obtain ⟨ht, h⟩ := State.of_assertFilled_bind_eq_ok h
  cases h
  exact ⟨ht, rfl⟩

theorem CartesianTwist.filled_of_differentiate {t : CartesianTwist α} {a : CartesianAcceleration α}
    (h : t.differentiate dt now = .ok a) : t.general.empty = false ∧ a.general.empty = false := by
  obtain ⟨ht, h⟩ := State.of_assertFilled_bind_eq_ok h
  obtain ⟨seconds, -, h⟩ := exists_of_bind_eq_ok h
  cases h
  exact ⟨ht, rfl⟩

theorem CartesianAcceleration.filled_of_integrate {a : CartesianAcceleration α}
    {t : CartesianTwist α} (h : a.integrate dt now = .ok t) :
    a.general.empty = false ∧ t.general.empty = false := by
  obtain ⟨ha, h⟩ := State.of_assertFilled_bind_eq_ok h
  cases h
  exact ⟨ha, rfl⟩

end Pose
end Kinematics
