import Kinematics.Proofs.Scalar
import Kinematics.Proofs.Cartesian.Outcome

/-!
# Expressions over Cartesian states

Sums, differences, opposites, multiples, quotients and unit vectors of states, nested in any way.
Every operation keeps the identity of its first operand, so whether the operands of a nested sum are
related by their frames is decided by the first states of the two.
-/

namespace Kinematics

inductive Expression (α : Type) where
  | state (s : CartesianState α)
  | add (left right : Expression α)
  | sub (left right : Expression α)
  | negate (e : Expression α)
  | scale (e : Expression α) (k : α)
  | divide (e : Expression α) (k : α)
  | normalize (e : Expression α) (selection : CartesianSelection)

namespace Expression
variable {α : Type}

/-- All states of the expression, from left to right. -/
def leaves : Expression α → List (CartesianState α)
  | state s => [s]
  | add left right | sub left right => left.leaves ++ right.leaves
  | negate e | scale e _ | divide e _ | normalize e _ => e.leaves

/-- The first state of the expression. -/
def leftmost : Expression α → CartesianState α
  | state s => s
  | add left _ | sub left _ => left.leftmost
  | negate e | scale e _ | divide e _ | normalize e _ => e.leftmost

def divisors : Expression α → List α
  | state _ => []
  | add left right | sub left right => left.divisors ++ right.divisors
  | negate e | scale e _ | normalize e _ => e.divisors
  | divide e k => k :: e.divisors

/-- At each sum and each difference the first states of its two operands. -/
def sums : Expression α → List (CartesianState α × CartesianState α)
  | state _ => []
  | add left right | sub left right => (left.leftmost, right.leftmost) :: (left.sums ++ right.sums)
  | negate e | scale e _ | divide e _ | normalize e _ => e.sums

def evaluate [Scalar α] : Expression α → Except (StateError α) (CartesianState α)
  | state s => .ok s
  | add left right => do (← left.evaluate).add (← right.evaluate)
  | sub left right => do (← left.evaluate).sub (← right.evaluate)
  | negate e => do (← e.evaluate).negate
  | scale e k => do (← e.evaluate).scale k
  | divide e k => do (← e.evaluate).divide k
  | normalize e selection => do (← e.evaluate).normalize selection

/-- All states are filled, no divisor is zero, and the operands of each sum are related. -/
structure Accepted [Scalar α] (e : Expression α) : Prop where
  filled : ∀ s ∈ e.leaves, s.empty = false
  nonzero : ∀ k ∈ e.divisors, k != 0
  related : ∀ pair ∈ e.sums, pair.1.toSpatialState.Related pair.2.toSpatialState

variable [Scalar α]

section Accepted
variable {e e' left right : Expression α}

theorem accepted_congr (hleaves : e'.leaves = e.leaves) (hdivisors : e'.divisors = e.divisors)
    (hsums : e'.sums = e.sums) : e'.Accepted ↔ e.Accepted := by
  constructor
  · rintro ⟨hfilled, hnonzero, hrelated⟩
    exact ⟨hleaves ▸ hfilled, hdivisors ▸ hnonzero, hsums ▸ hrelated⟩
  · rintro ⟨hfilled, hnonzero, hrelated⟩
    exact ⟨hleaves ▸ hfilled, hdivisors ▸ hnonzero, hsums ▸ hrelated⟩

theorem accepted_state {s : CartesianState α} : (state s).Accepted ↔ s.empty = false := by
  constructor
  · intro h
    exact h.filled s (List.mem_singleton.mpr rfl)
  · intro h
    exact ⟨List.forall_mem_singleton.mpr h, fun _ hk => absurd hk List.not_mem_nil,
      fun _ hp => absurd hp List.not_mem_nil⟩

theorem accepted_add :
    (add left right).Accepted ↔ left.Accepted ∧ right.Accepted ∧
      left.leftmost.toSpatialState.Related right.leftmost.toSpatialState := by
  constructor
  · rintro ⟨hfilled, hnonzero, hrelated⟩
    simp only [leaves, divisors, sums, List.forall_mem_append, List.forall_mem_cons] at *
    exact ⟨⟨hfilled.1, hnonzero.1, hrelated.2.1⟩, ⟨hfilled.2, hnonzero.2, hrelated.2.2⟩,
      hrelated.1⟩
  · rintro ⟨hleft, hright, hrelated⟩
    refine ⟨?_, ?_, ?_⟩
    · exact List.forall_mem_append.mpr ⟨hleft.filled, hright.filled⟩
    · exact List.forall_mem_append.mpr ⟨hleft.nonzero, hright.nonzero⟩
    · exact List.forall_mem_cons.mpr
        ⟨hrelated, List.forall_mem_append.mpr ⟨hleft.related, hright.related⟩⟩

theorem accepted_divide {k : α} : (divide e k).Accepted ↔ e.Accepted ∧ k != 0 := by
  constructor
  · intro h
    obtain ⟨hk, hnonzero⟩ := List.forall_mem_cons.mp h.nonzero
    exact ⟨⟨h.filled, hnonzero, h.related⟩, hk⟩
  · rintro ⟨h, hk⟩
    exact ⟨h.filled, List.forall_mem_cons.mpr ⟨hk, h.nonzero⟩, h.related⟩

end Accepted

/-- What is known of a subexpression: it yields a state with the identity of its first one, and when
that is filled the subexpression is accepted. Only an empty state alone is yielded as it is. -/
structure Decided (e : Expression α) : Prop where
  exists_ok : e.Accepted → ∃ t, e.evaluate = .ok t
  accepted {t : CartesianState α} : e.evaluate = .ok t → t.empty = false → e.Accepted
  filled_of_ne {t : CartesianState α} :
    (∀ s, e ≠ .state s) → e.evaluate = .ok t → t.empty = false
  identity {t : CartesianState α} :
    e.evaluate = .ok t → t.toSpatialState = e.leftmost.toSpatialState

namespace Decided
open CartesianState (Yields)
variable {e left right : Expression α}

theorem filled (h : e.Decided) (haccepted : e.Accepted) {t : CartesianState α}
    (ht : e.evaluate = .ok t) : t.empty = false := by
  have hleftmost : e.leftmost ∈ e.leaves := by
    clear h haccepted ht
    induction e with
    | state s => exact List.mem_singleton.mpr rfl
    | add left right ih | sub left right ih => exact List.mem_append_left _ ih
    | negate e ih | scale e k ih | divide e k ih | normalize e selection ih => exact ih
  exact (congrArg (·.empty) (h.identity ht)).trans (haccepted.filled _ hleftmost)

/-- Operations on one state: `c` is what the operation asks for beside a filled state. -/
theorem apply {e' : Expression α} {c : Prop} (h : e.Decided)
    {op : CartesianState α → Except (StateError α) (CartesianState α)}
    (hevaluate : e'.evaluate = e.evaluate >>= op) (hleftmost : e'.leftmost = e.leftmost)
    (haccepted : e'.Accepted ↔ e.Accepted ∧ c)
    (hop : ∀ s, Yields (op s) s (s.empty = false ∧ c)) : e'.Decided where
  exists_ok h' := by
    obtain ⟨he, hc⟩ := haccepted.mp h'
    obtain ⟨s, hs⟩ := h.exists_ok he
    rw [hevaluate, hs]
    exact (hop s).exists_ok ⟨h.filled he hs, hc⟩
  accepted ht _ := by
    rw [hevaluate] at ht
    obtain ⟨s, hs, ht⟩ := exists_of_bind_eq_ok ht
    obtain ⟨hfilled, hc⟩ := (hop s).holds ht
    exact haccepted.mpr ⟨h.accepted hs hfilled, hc⟩
  filled_of_ne _ ht := by
    rw [hevaluate] at ht
    obtain ⟨s, hs, ht⟩ := exists_of_bind_eq_ok ht
    exact (congrArg (·.empty) ((hop s).identity ht)).trans ((hop s).holds ht).1
  identity ht := by
    rw [hevaluate] at ht
    obtain ⟨s, hs, ht⟩ := exists_of_bind_eq_ok ht
    rw [hleftmost, (hop s).identity ht, h.identity hs]

/-- Operations that ask for nothing else. -/
theorem revalue {e' : Expression α} (h : e.Decided)
    {values : CartesianState α → CartesianValues α}
    (hevaluate : e'.evaluate =
      e.evaluate >>= fun s => do s.assertFilled; return { s with values := values s })
    (hleftmost : e'.leftmost = e.leftmost) (haccepted : e'.Accepted ↔ e.Accepted) :
    e'.Decided := by
  rw [← and_true e.Accepted] at haccepted
  refine h.apply hevaluate hleftmost haccepted fun s => ?_
  rw [and_true]
  exact CartesianState.yields_of_filled (values s)

theorem combine {e' : Expression α} (hleft : left.Decided) (hright : right.Decided)
    {op : CartesianState α → CartesianState α → Except (StateError α) (CartesianState α)}
    (hevaluate : e'.evaluate = do op (← left.evaluate) (← right.evaluate))
    (hleftmost : e'.leftmost = left.leftmost)
    (haccepted : e'.Accepted ↔ (add left right).Accepted)
    (hop : ∀ a b, Yields (op a b) a
      (a.empty = false ∧ b.empty = false ∧ a.toSpatialState.Related b.toSpatialState)) :
    e'.Decided where
  exists_ok h' := by
    obtain ⟨hl, hr, hrelated⟩ := accepted_add.mp (haccepted.mp h')
    obtain ⟨a, ha⟩ := hleft.exists_ok hl
    obtain ⟨b, hb⟩ := hright.exists_ok hr
    rw [← hleft.identity ha, ← hright.identity hb] at hrelated
    rw [hevaluate, ha, hb]
    exact (hop a b).exists_ok ⟨hleft.filled hl ha, hright.filled hr hb, hrelated⟩
  accepted ht _ := by
    rw [hevaluate] at ht
    obtain ⟨a, ha, ht⟩ := exists_of_bind_eq_ok ht
    obtain ⟨b, hb, ht⟩ := exists_of_bind_eq_ok ht
    obtain ⟨hafilled, hbfilled, hrelated⟩ := (hop a b).holds ht
    rw [hleft.identity ha, hright.identity hb] at hrelated
    exact haccepted.mpr
      (accepted_add.mpr ⟨hleft.accepted ha hafilled, hright.accepted hb hbfilled, hrelated⟩)
  filled_of_ne _ ht := by
    rw [hevaluate] at ht
    obtain ⟨a, ha, ht⟩ := exists_of_bind_eq_ok ht
    obtain ⟨b, hb, ht⟩ := exists_of_bind_eq_ok ht
    exact (congrArg (·.empty) ((hop a b).identity ht)).trans ((hop a b).holds ht).1
  identity ht := by
    rw [hevaluate] at ht
    obtain ⟨a, ha, ht⟩ := exists_of_bind_eq_ok ht
    obtain ⟨b, hb, ht⟩ := exists_of_bind_eq_ok ht
    rw [hleftmost, (hop a b).identity ht, hleft.identity ha]

end Decided

/-- By induction on the expression: what each operation asks for is what its operands are known to
have. -/
theorem decided (e : Expression α) : e.Decided := by
  induction e with
  | state s =>
    refine ⟨fun _ => ⟨s, rfl⟩, fun ht hfilled => ?_, fun hne => absurd rfl (hne s), fun ht => ?_⟩
    · cases ht
      exact accepted_state.mpr hfilled
    · cases ht
      rfl
  | add left right hleft hright =>
    exact hleft.combine hright rfl rfl Iff.rfl (CartesianState.yields_combine false)
  | sub left right hleft hright =>
    exact hleft.combine hright rfl rfl (accepted_congr rfl rfl rfl)
      (CartesianState.yields_combine true)
  | negate e h => exact h.revalue rfl rfl (accepted_congr rfl rfl rfl)
  | scale e k h => exact h.revalue rfl rfl (accepted_congr rfl rfl rfl)
  | divide e k h =>
    exact h.apply rfl rfl accepted_divide fun s => CartesianState.yields_divide s k
  | normalize e selection h => exact h.revalue rfl rfl (accepted_congr rfl rfl rfl)

end Expression

/-- An expression yields a filled state, and with at least one operation it yields a state at all,
exactly if its states are filled, its divisors are not zero and the first states of the operands of
each sum are related; and what it yields has the identity of its first state. -/
theorem expression_evaluates_iff {α : Type} [Scalar α] (e : Expression α) :
    ((∃ t, e.evaluate = .ok t ∧ t.empty = false) ↔ e.Accepted) ∧
    ((∀ s, e ≠ .state s) → ((∃ t, e.evaluate = .ok t) ↔ e.Accepted)) ∧
    ∀ t, e.evaluate = .ok t →
      t.name = e.leftmost.name ∧ t.frame = e.leftmost.frame ∧ t.type = e.leftmost.type ∧
        t.timestamp = e.leftmost.timestamp := by
  have h := e.decided
  refine ⟨⟨?_, fun haccepted => ?_⟩, fun hne => ⟨?_, h.exists_ok⟩, fun t ht => ?_⟩
  · rintro ⟨t, ht, hfilled⟩
    exact h.accepted ht hfilled
  · obtain ⟨t, ht⟩ := h.exists_ok haccepted
    exact ⟨t, ht, h.filled haccepted ht⟩
  · rintro ⟨t, ht⟩
    exact h.accepted ht (h.filled_of_ne hne ht)
  · have hidentity := h.identity ht
    exact ⟨congrArg (·.name) hidentity, congrArg (·.frame) hidentity,
      congrArg (·.type) hidentity, congrArg (·.timestamp) hidentity⟩

/-- A tool in the base, the base in the world and a camera in the world. The tool is related to the
base and the base to the camera, but the tool is not related to the camera: half the tool and the
camera can only be taken together when the base is added to the camera first. -/
theorem expression_evaluates_iff_nested :
    let tool : CartesianState ℝ := .identity "tool" "base" ⟨0⟩
    let base : CartesianState ℝ := .identity "base" "world" ⟨1⟩
    let camera : CartesianState ℝ := .identity "camera" "world" ⟨2⟩
    let half : Expression ℝ := .divide (.state tool) 2
    (∃ t, (Expression.sub half (.add (.state base) (.state camera))).evaluate = .ok t ∧
      t.name = "tool" ∧ t.frame = "base" ∧ t.type = .cartesianState ∧ t.timestamp = ⟨0⟩) ∧
    ¬∃ t, (Expression.sub (.add half (.state base)) (.state camera)).evaluate = .ok t := by
  intro tool base camera half
  have hhalf : half.Accepted :=
    Expression.accepted_divide.mpr ⟨Expression.accepted_state.mpr rfl, by simp [bne, BEq.beq]⟩
  have hinner : (Expression.add (.state base) (.state camera)).Accepted :=
    Expression.accepted_add.mpr
      ⟨Expression.accepted_state.mpr rfl, Expression.accepted_state.mpr rfl, .inr (.inr rfl)⟩
  have hsum : (Expression.add half (.add (.state base) (.state camera))).Accepted :=
    Expression.accepted_add.mpr ⟨hhalf, hinner, .inr (.inl rfl)⟩
  have hright : (Expression.sub half (.add (.state base) (.state camera))).Accepted :=
    ⟨hsum.filled, hsum.nonzero, hsum.related⟩
  obtain ⟨-, hiff, hidentity⟩ :=
    expression_evaluates_iff (Expression.sub half (.add (.state base) (.state camera)))
  obtain ⟨t, ht⟩ := (hiff (by simp)).mpr hright
  refine ⟨⟨t, ht, hidentity t ht⟩, fun hleft => ?_⟩
  obtain ⟨-, hiff, -⟩ :=
    expression_evaluates_iff (Expression.sub (.add half (.state base)) (.state camera))
  have haccepted := (hiff (by simp)).mp hleft
  have hrelated := haccepted.related (tool, camera) List.mem_cons_self
  simp [SpatialState.Related, tool, camera, CartesianState.identity, CartesianState.new,
    CartesianState.ofType, State.new] at hrelated

end Kinematics
