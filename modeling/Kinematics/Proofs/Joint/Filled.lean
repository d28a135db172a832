import Kinematics.Proofs.Joint.Operation

/-!
# Only filled joint states are read

As with Cartesian states, what reads all numbers of a joint state or of a projection returns only
when that is filled, and the states that it yields are filled.
-/

namespace Kinematics

namespace JointState
variable {α : Type} {s t : JointState α}

theorem Rewritten.filled {selection : JointSelection} (h : s.Rewritten selection t) :
    t.empty = false := by
  obtain ⟨data, -, rfl⟩ := h
  rfl

theorem RewrittenAt.filled {field : JointField} {x : α} (h : s.RewrittenAt field x t) :
    t.empty = false := by
  obtain ⟨index, -, rfl⟩ := h
  rfl

theorem filled_of_data {xs : List α} (h : s.data = .ok xs) : s.empty = false :=
  (State.of_assertFilled_bind_eq_ok h).1

variable [Scalar α]

theorem filled_of_combine {sign : α} {a b : JointState α} (h : combine sign a b = .ok t) :
    a.empty = false ∧ b.empty = false ∧ t.empty = false := by
  obtain ⟨ha, h⟩ := State.of_assertFilled_bind_eq_ok h
  obtain ⟨hb, h⟩ := State.of_assertFilled_bind_eq_ok h
  obtain ⟨-, -, h⟩ := exists_of_bind_eq_ok h
  cases h
  exact ⟨ha, hb, ha⟩

theorem filled_of_scaleSelection {k : α} {selection : JointSelection}
    (h : s.scaleSelection k selection = .ok t) : s.empty = false ∧ t.empty = false := by
  obtain ⟨hs, h⟩ := State.of_assertFilled_bind_eq_ok h
  cases h
  exact ⟨hs, hs⟩

theorem filled_of_divide {k : α} (h : s.divide k = .ok t) : s.empty = false ∧ t.empty = false := by
  unfold divide at h
  split at h
  case isTrue => cases h
  case isFalse => exact filled_of_scaleSelection h

theorem filled_of_dist {selection : JointSelection} {x : α} (h : s.dist t selection = .ok x) :
    s.empty = false ∧ t.empty = false := by
  obtain ⟨hs, h⟩ := State.of_assertFilled_bind_eq_ok h
  exact ⟨hs, (State.of_assertFilled_bind_eq_ok h).1⟩

theorem clampEach_settles_filled (s : JointState α) (bounds : List α) (selection : JointSelection)
    (ratios : List α) :
    (clampEach bounds selection ratios).Settles s fun t => s.empty = false ∧ t.empty = false :=
  .get_bind <| .assertFilled_bind <| .ite (fun _ => .throw_bind _ _) fun _ =>
    .ite (fun _ => .throw_bind _ _) fun _ => (write_settles selection _).mono fun _ => (·.filled)

theorem clamp_settles_filled (s : JointState α) (bound : α) (selection : JointSelection)
    (ratio : α) :
    (clamp bound selection ratio).Settles s fun t => s.empty = false ∧ t.empty = false :=
  .get_bind <| clampEach_settles_filled s _ selection _

theorem multiply_settles_filled (s : JointState α) (gain : DenseMatrix α)
    (selection : JointSelection) :
    (multiply gain selection).Settles s fun t => s.empty = false ∧ t.empty = false :=
  .get_bind <| .assertFilled_bind <| .ite (fun _ => .throw_bind _ _) fun _ =>
    .ite (fun _ => .throw_bind _ _) fun _ => (write_settles selection _).mono fun _ => (·.filled)

theorem multiplyEach_settles_filled (s : JointState α) (gain : List α)
    (selection : JointSelection) :
    (multiplyEach gain selection).Settles s fun t => s.empty = false ∧ t.empty = false :=
  .get_bind <| .assertFilled_bind <| .ite (fun _ => .throw_bind _ _) fun _ =>
    (write_settles selection _).mono fun _ => (·.filled)

theorem Operation.filled_of_apply {op : Operation α} (h : op.apply s = .ok t) :
    (∀ o ∈ s :: op.operands, o.empty = false) ∧ t.empty = false := by
  have hone {o : JointState α} (ho : o.empty = false) : ∀ o' ∈ [o], o'.empty = false :=
    List.forall_mem_singleton.mpr ho
  cases op with
  | add other | sub other =>
    obtain ⟨hs, hother, ht⟩ := filled_of_combine h
    exact ⟨List.forall_mem_cons.mpr ⟨hs, hone hother⟩, ht⟩
  | scale | scaleSelection => exact (filled_of_scaleSelection h).imp_left hone
  | divide k => exact (filled_of_divide h).imp_left hone
  | scaleByMatrix gain => exact ((multiply_settles_filled s gain .all).onCopy h).imp_left hone
  | scaleEach gain => exact ((multiplyEach_settles_filled s gain .all).onCopy h).imp_left hone

end JointState

namespace JointProjection
open JointState (filled_of_combine filled_of_divide filled_of_scaleSelection)
variable {α : Type} {field : JointField} {p q : JointProjection α field}

theorem filled_of_data {xs : List α} (h : p.data = .ok xs) : p.general.empty = false :=
  (State.of_assertFilled_bind_eq_ok h).1

theorem lift_settles_filled {edit : Edit α (JointState α) Unit}
    (h : edit.Settles p.general fun t => p.general.empty = false ∧ t.empty = false) :
    (lift edit : Edit α (JointProjection α field) Unit).Settles p fun q =>
      p.general.empty = false ∧ q.general.empty = false :=
  lift_settles h

variable [Scalar α]

/-- A projection is as empty as the state. -/
theorem filled_of_project {c : Prop} {result : Except (StateError α) (JointState α)}
    (hresult : ∀ s, result = .ok s → c ∧ s.empty = false)
    (h : (return (← result).project field) = Except.ok q) : c ∧ q.general.empty = false := by
  obtain ⟨s, hs, h⟩ := exists_of_bind_eq_ok h
  cases h
  exact hresult s hs

theorem clamp_settles_filled (p : JointProjection α field) (bound ratio : α) :
    (clamp bound ratio).Settles p fun q => p.general.empty = false ∧ q.general.empty = false :=
  lift_settles_filled (JointState.clamp_settles_filled p.general bound field.selection ratio)

theorem clampEach_settles_filled (p : JointProjection α field) (bounds ratios : List α) :
    (clampEach bounds ratios).Settles p fun q =>
      p.general.empty = false ∧ q.general.empty = false :=
  lift_settles_filled (JointState.clampEach_settles_filled p.general bounds field.selection ratios)

theorem clampWith_settles_filled (p : JointProjection α field) (limits : JointLimits α) :
    (clampWith limits).Settles p fun q => p.general.empty = false ∧ q.general.empty = false :=
  .require_bind fun _ _ => clampEach_settles_filled p limits.maxima limits.ratios

theorem Operation.filled_of_apply {op : Operation α field} (h : op.apply p = .ok q) :
    (∀ o ∈ p :: op.operands, o.general.empty = false) ∧ q.general.empty = false := by
  have hone {o : JointProjection α field} (ho : o.general.empty = false) :
      ∀ o' ∈ [o], o'.general.empty = false :=
    List.forall_mem_singleton.mpr ho
  cases op with
  | add other | sub other =>
    obtain ⟨⟨hp, hother⟩, hq⟩ := filled_of_project
      (fun s hs => and_assoc.mpr (filled_of_combine hs)) h
    exact ⟨List.forall_mem_cons.mpr ⟨hp, hone hother⟩, hq⟩
  | scale k => exact (filled_of_project (fun _ => filled_of_scaleSelection) h).imp_left hone
  | divide k => exact (filled_of_project (fun _ => filled_of_divide) h).imp_left hone
  | scaleByMatrix gain =>
    have hsettles := JointState.multiply_settles_filled p.general gain field.selection
    exact ((lift_settles_filled hsettles).onCopy h).imp_left hone
  | scaleEach gain =>
    have hsettles := JointState.multiplyEach_settles_filled p.general gain field.selection
    exact ((lift_settles_filled hsettles).onCopy h).imp_left hone
  | clamped bound ratio => exact ((clamp_settles_filled p bound ratio).onCopy h).imp_left hone

section Time
variable {target : JointField} {r : JointProjection α target} {dt : Duration} {now : Instant}

theorem filled_of_carryOver {data : List α} (h : p.carryOver target data now = .ok r) :
    r.general.empty = false :=
  ((Change.settles _ (.setData data)).onCopy h).filled

theorem filled_of_rateOfChange (h : p.rateOfChange target dt now = .ok r) :
    p.general.empty = false ∧ r.general.empty = false := by
  obtain ⟨hp, h⟩ := State.of_assertFilled_bind_eq_ok h
  obtain ⟨seconds, -, h⟩ := exists_of_bind_eq_ok h
  exact ⟨hp, filled_of_carryOver h⟩

theorem filled_of_accumulated (h : p.accumulated target dt now = .ok r) :
    p.general.empty = false ∧ r.general.empty = false := by
  obtain ⟨hp, h⟩ := State.of_assertFilled_bind_eq_ok h
  exact ⟨hp, filled_of_carryOver h⟩

end Time
end JointProjection
end Kinematics
