import Kinematics.Proofs.Cartesian.Motion

/-!
# Chains of states

A chain can be composed in any order of its links. The order decides neither whether the
composition succeeds nor, up to the sign of the orientation and the torque, what it yields.
-/

namespace Kinematics

/-- A chain of states with the order of its compositions, each made at its own instant. -/
inductive Bracketing (α : Type) where
  | state (s : CartesianState α)
  | compose (left right : Bracketing α) (now : Instant)

/-- All states are filled, and each is expressed in the frame of the one before. -/
structure Composable {α : Type} (states : List (CartesianState α)) : Prop where
  filled : ∀ s ∈ states, s.empty = false
  linked : states.IsChain fun a b => a.name = b.frame

/-- Equal but for the sign of the orientation, the torque and the instant. -/
structure CartesianState.SameMotion (a b : CartesianState ℝ) : Prop where
  name : a.name = b.name
  frame : a.frame = b.frame
  values : a.values.SameMotion b.values

theorem composable_append {α : Type} (l l' : List (CartesianState α)) :
    Composable (l ++ l') ↔
      Composable l ∧ Composable l' ∧ ∀ a ∈ l.getLast?, ∀ b ∈ l'.head?, a.name = b.frame := by
  constructor
  · rintro ⟨hfilled, hlinked⟩
    obtain ⟨hl, hl', hjoin⟩ := List.isChain_append.mp hlinked
    exact ⟨⟨fun s hs => hfilled s (List.mem_append_left _ hs), hl⟩,
      ⟨fun s hs => hfilled s (List.mem_append_right _ hs), hl'⟩, hjoin⟩
  · rintro ⟨⟨hf, hl⟩, ⟨hf', hl'⟩, hjoin⟩
    refine ⟨?_, List.isChain_append.mpr ⟨hl, hl', hjoin⟩⟩
    intro s hs
    rcases List.mem_append.mp hs with hs | hs
    · exact hf s hs
    · exact hf' s hs

theorem composable_three {α : Type} {a b c : CartesianState α} :
    Composable [a, b, c] ↔
      (a.empty = false ∧ b.empty = false ∧ c.empty = false) ∧
        a.name = b.frame ∧ b.name = c.frame := by
  constructor
  · rintro ⟨hfilled, hlinked⟩
    simpa using And.intro hfilled hlinked
  · rintro ⟨hfilled, hlinked⟩
    exact ⟨by simpa using hfilled, by simpa using hlinked⟩

namespace Bracketing
variable {α : Type}

/-- The states of the chain, from the outermost frame inwards. -/
def states : Bracketing α → List (CartesianState α)
  | state s => [s]
  | compose left right _ => left.states ++ right.states

theorem states_ne_nil (t : Bracketing α) : t.states ≠ [] := by
  induction t with
  | state s => exact List.cons_ne_nil _ _
  | compose l r now ihl ihr => exact List.append_ne_nil_of_left_ne_nil ihl _

variable [Scalar α]

def evaluate : Bracketing α → Except (StateError α) (CartesianState α)
  | state s => .ok s
  | compose left right now => do
      let a ← left.evaluate
      let b ← right.evaluate
      a.compose b now

/-- The fields of the composed state, whether or not the states may be composed. -/
def values : Bracketing α → CartesianValues α
  | state s => s.values
  | compose left right _ => CartesianState.composeValues left.values right.values

theorem evaluate_compose {l r : Bracketing α} {now : Instant} {x : CartesianState α} :
    (compose l r now).evaluate = .ok x ↔
      ∃ a b, l.evaluate = .ok a ∧ r.evaluate = .ok b ∧ a.compose b now = .ok x := by
  rw [evaluate]
  cases hl : l.evaluate <;> cases hr : r.evaluate <;> simp [bind, Except.bind]

theorem values_evaluate {t : Bracketing α} {x : CartesianState α} (h : t.evaluate = .ok x) :
    x.values = t.values := by
  induction t generalizing x with
  | state s =>
    cases h
    rfl
  | compose l r now ihl ihr =>
    obtain ⟨a, b, ha, hb, hx⟩ := evaluate_compose.mp h
    obtain ⟨-, -, -, rfl⟩ := CartesianState.compose_eq_ok_iff.mp hx
    change CartesianState.composeValues a.values b.values = _
    rw [ihl ha, ihr hb, values]

theorem frame_evaluate {t : Bracketing α} {x : CartesianState α} (h : t.evaluate = .ok x) :
    t.states.head?.map (·.frame) = some x.frame := by
  induction t generalizing x with
  | state s =>
    cases h
    rfl
  | compose l r now ihl ihr =>
    obtain ⟨a, b, ha, hb, hx⟩ := evaluate_compose.mp h
    obtain ⟨-, -, -, rfl⟩ := CartesianState.compose_eq_ok_iff.mp hx
    rw [states, List.head?_append_of_ne_nil _ l.states_ne_nil]
    exact (ihl ha).trans rfl

theorem name_evaluate {t : Bracketing α} {x : CartesianState α} (h : t.evaluate = .ok x) :
    t.states.getLast?.map (·.name) = some x.name := by
  induction t generalizing x with
  | state s =>
    cases h
    rfl
  | compose l r now ihl ihr =>
    obtain ⟨a, b, ha, hb, hx⟩ := evaluate_compose.mp h
    obtain ⟨-, -, -, rfl⟩ := CartesianState.compose_eq_ok_iff.mp hx
    rw [states, List.getLast?_append_of_ne_nil _ r.states_ne_nil]
    exact (ihr hb).trans rfl

private theorem joined_iff {l r : Bracketing α} {a b : CartesianState α}
    (ha : l.evaluate = .ok a) (hb : r.evaluate = .ok b) :
    (∀ s ∈ l.states.getLast?, ∀ s' ∈ r.states.head?, s.name = s'.frame) ↔ a.name = b.frame := by
  obtain ⟨s, hs, hname⟩ := Option.map_eq_some_iff.mp (name_evaluate ha)
  obtain ⟨s', hs', hframe⟩ := Option.map_eq_some_iff.mp (frame_evaluate hb)
  simp [hs, hs', hname, hframe]

theorem evaluate_filled_iff (t : Bracketing α) :
    (∃ x, t.evaluate = .ok x ∧ x.empty = false) ↔ Composable t.states := by
  induction t with
  | state s =>
    constructor
    · rintro ⟨x, hx, hfilled⟩
      cases hx
      exact ⟨by simpa [states] using hfilled, List.isChain_singleton s⟩
    · intro h
      exact ⟨s, rfl, h.filled s (List.mem_singleton.mpr rfl)⟩
  | compose l r now ihl ihr =>
    rw [states, composable_append, ← ihl, ← ihr]
    constructor
    · rintro ⟨x, hx, -⟩
      obtain ⟨a, b, ha, hb, hx⟩ := evaluate_compose.mp hx
      obtain ⟨hfa, hfb, hjoin, -⟩ := CartesianState.compose_eq_ok_iff.mp hx
      exact ⟨⟨a, ha, hfa⟩, ⟨b, hb, hfb⟩, (joined_iff ha hb).mpr hjoin⟩
    · rintro ⟨⟨a, ha, hfa⟩, ⟨b, hb, hfb⟩, hjoin⟩
      exact ⟨_, evaluate_compose.mpr ⟨a, b, ha, hb, CartesianState.compose_eq_ok_iff.mpr
        ⟨hfa, hfb, (joined_iff ha hb).mp hjoin, rfl⟩⟩, rfl⟩

/-- A single state is its own result, even an empty one; all else needs a composable chain. -/
theorem evaluate_iff (t : Bracketing α) :
    (∃ x, t.evaluate = .ok x) ↔ (1 < t.states.length → Composable t.states) := by
  cases t with
  | state s => simp [evaluate, states]
  | compose l r now =>
    have hl := List.length_pos_iff.mpr l.states_ne_nil
    have hr := List.length_pos_iff.mpr r.states_ne_nil
    have hlength : 1 < (compose l r now).states.length := by
      rw [states, List.length_append]
      omega
    rw [← evaluate_filled_iff]
    constructor
    · rintro ⟨x, hx⟩ -
      obtain ⟨a, b, -, -, hcompose⟩ := evaluate_compose.mp hx
      obtain ⟨-, -, -, rfl⟩ := CartesianState.compose_eq_ok_iff.mp hcompose
      exact ⟨_, hx, rfl⟩
    · intro h
      obtain ⟨x, hx, -⟩ := h hlength
      exact ⟨x, hx⟩

section Three
variable {a b c : CartesianState α} (h : Composable [a, b, c])
include h

theorem exists_outerFirst (t₁ t₂ : Instant) :
    ∃ x, (do (← a.compose b t₁).compose c t₂) = .ok x ∧
      x.values = CartesianState.composeValues
        (CartesianState.composeValues a.values b.values) c.values := by
  let s : Bracketing α := .compose (.compose (.state a) (.state b) t₁) (.state c) t₂
  obtain ⟨x, hx⟩ := s.evaluate_iff.mpr fun _ => h
  exact ⟨x, hx, values_evaluate hx⟩

theorem exists_innerFirst (t₁ t₂ : Instant) :
    ∃ y, (do a.compose (← b.compose c t₁) t₂) = .ok y ∧
      y.values = CartesianState.composeValues a.values
        (CartesianState.composeValues b.values c.values) := by
  let s : Bracketing α := .compose (.state a) (.compose (.state b) (.state c) t₁) t₂
  obtain ⟨y, hy⟩ := s.evaluate_iff.mpr fun _ => h
  exact ⟨y, hy, values_evaluate hy⟩

end Three

section Values
variable {s t : Bracketing ℝ}

theorem values_sameMotion (ht : ∀ a ∈ t.states, a.values.orientation.IsRotation) :
    t.values.SameMotion (.composeAll (t.states.map (·.values))) := by
  induction t with
  | state a =>
    exact (CartesianValues.compose_identity (ht a (List.mem_singleton.mpr rfl))).symm
  | compose l r now ihl ihr =>
    obtain ⟨hl, hr⟩ := List.forall_mem_append.mp ht
    have hl' : ∀ v ∈ l.states.map (·.values), v.orientation.IsRotation := by
      simpa using hl
    have hr' : ∀ v ∈ r.states.map (·.values), v.orientation.IsRotation := by
      simpa using hr
    rw [states, List.map_append]
    exact (CartesianValues.SameMotion.compose (CartesianValues.isRotation_composeAll hl')
      (CartesianValues.isRotation_composeAll hr') (ihl hl) (ihr hr)).trans
      (CartesianValues.composeAll_append hl' hr').symm

theorem sameMotion_of_states_eq (hst : s.states = t.states)
    (hs : ∀ a ∈ s.states, a.values.orientation.IsRotation) {x y : CartesianState ℝ}
    (hx : s.evaluate = .ok x) (hy : t.evaluate = .ok y) : x.SameMotion y where
  name := by
    have h := name_evaluate hx
    rw [hst, name_evaluate hy] at h
    exact (Option.some_inj.mp h).symm
  frame := by
    have h := frame_evaluate hx
    rw [hst, frame_evaluate hy] at h
    exact (Option.some_inj.mp h).symm
  values := by
    have hleft := values_sameMotion hs
    have hright := values_sameMotion (hst ▸ hs)
    rw [← hst] at hright
    rw [values_evaluate hx, values_evaluate hy]
    exact hleft.trans hright.symm

end Values

end Bracketing

/-- Composition is associative: whether a chain of turned and moving frames can be composed, and
the motion that comes out, do not depend on the order of the compositions. -/
theorem composition_independent_of_bracketing :
    (∀ a b c : CartesianState ℝ, a.values.orientation.IsRotation →
      b.values.orientation.IsRotation → c.values.orientation.IsRotation →
      ∀ t₁ t₂ t₃ t₄ : Instant,
      let outerFirst := do (← a.compose b t₁).compose c t₂
      let innerFirst := do a.compose (← b.compose c t₃) t₄
      ((∃ x, outerFirst = .ok x) ↔ Composable [a, b, c]) ∧
        ((∃ y, innerFirst = .ok y) ↔ Composable [a, b, c]) ∧
        ∀ x y, outerFirst = .ok x → innerFirst = .ok y → x.SameMotion y) ∧
    ∀ s t : Bracketing ℝ, s.states = t.states →
      (∀ a ∈ s.states, a.values.orientation.IsRotation) →
      ((∃ x, s.evaluate = .ok x) ↔ ∃ y, t.evaluate = .ok y) ∧
        (1 < s.states.length → ((∃ x, s.evaluate = .ok x) ↔ Composable s.states)) ∧
        ∀ x y, s.evaluate = .ok x → t.evaluate = .ok y → x.SameMotion y := by
  constructor
  · intro a b c ha hb hc t₁ t₂ t₃ t₄
    let s : Bracketing ℝ := .compose (.compose (.state a) (.state b) t₁) (.state c) t₂
    let t : Bracketing ℝ := .compose (.state a) (.compose (.state b) (.state c) t₃) t₄
    have hrotation : ∀ x ∈ s.states, x.values.orientation.IsRotation := by
      simp [s, Bracketing.states, ha, hb, hc]
    have hlong (u : Bracketing ℝ) (hu : u.states = [a, b, c]) :
        (∃ x, u.evaluate = .ok x) ↔ Composable [a, b, c] := by
      rw [u.evaluate_iff, hu]
      exact ⟨fun h => h (by simp), fun h _ => h⟩
    exact ⟨hlong s rfl, hlong t rfl, fun x y hx hy =>
      Bracketing.sameMotion_of_states_eq (s := s) (t := t) rfl hrotation hx hy⟩
  · intro s t hst hs
    refine ⟨?_, ?_, fun x y hx hy => Bracketing.sameMotion_of_states_eq hst hs hx hy⟩
    · rw [s.evaluate_iff, t.evaluate_iff, hst]
    · intro hlength
      rw [s.evaluate_iff]
      exact ⟨fun h => h hlength, fun h _ => h⟩

theorem composition_independent_of_bracketing_turning :
    let link (name frame : String) : CartesianState ℝ :=
      ((CartesianState.identity name frame ⟨0⟩).setOrientation ⟨3 / 5, 4 / 5, 0, 0⟩).setVector
        .angularVelocity ⟨0, 0, 1⟩
    let a := link "base" "world"
    let b := link "arm" "base"
    let c := link "hand" "arm"
    let d := link "tool" "hand"
    let halves : Bracketing ℝ :=
      .compose (.compose (.state a) (.state b) ⟨1⟩) (.compose (.state c) (.state d) ⟨2⟩) ⟨3⟩
    let nested : Bracketing ℝ :=
      .compose (.compose (.compose (.state a) (.state b) ⟨1⟩) (.state c) ⟨2⟩) (.state d) ⟨3⟩
    (∃ x y, (do (← a.compose b ⟨1⟩).compose c ⟨2⟩) = .ok x ∧
      (do a.compose (← b.compose c ⟨3⟩) ⟨4⟩) = .ok y ∧ x.SameMotion y) ∧
    ∃ x y, halves.evaluate = .ok x ∧ nested.evaluate = .ok y ∧ x.SameMotion y := by
  intro link a b c d halves nested
  have hrotation : (⟨3 / 5, 4 / 5, 0, 0⟩ : Quaternion ℝ).IsRotation := by
    norm_num [Quaternion.IsRotation, Quaternion.normSq, Quaternion.dot]
  have hfilled (name frame : String) : (link name frame).empty = false := rfl
  constructor
  · have hchain : Composable [a, b, c] := composable_three.mpr ⟨⟨rfl, rfl, rfl⟩, rfl, rfl⟩
    obtain ⟨houter, hinner, hsame⟩ := composition_independent_of_bracketing.1 a b c
      hrotation hrotation hrotation ⟨1⟩ ⟨2⟩ ⟨3⟩ ⟨4⟩
    obtain ⟨x, hx⟩ := houter.mpr hchain
    obtain ⟨y, hy⟩ := hinner.mpr hchain
    exact ⟨x, y, hx, hy, hsame x y hx hy⟩
  · have hchain : Composable [a, b, c, d] :=
      ⟨by simp [a, b, c, d, hfilled],
        .cons_cons rfl (.cons_cons rfl (.cons_cons rfl (.singleton _)))⟩
    have hunit : ∀ s ∈ halves.states, s.values.orientation.IsRotation := by
      intro s hs
      have hs : s ∈ [a, b, c, d] := hs
      simp only [List.mem_cons, List.not_mem_nil, or_false] at hs
      rcases hs with rfl | rfl | rfl | rfl <;> exact hrotation
    obtain ⟨hboth, hsucceeds, hsame⟩ :=
      composition_independent_of_bracketing.2 halves nested rfl hunit
    obtain ⟨x, hx⟩ := (hsucceeds (by decide)).mpr hchain
    obtain ⟨y, hy⟩ := hboth.mp ⟨x, hx⟩
    exact ⟨x, y, hx, hy, hsame x y hx hy⟩

end Kinematics
