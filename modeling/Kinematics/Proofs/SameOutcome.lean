import Kinematics.Error

/-!
# Outcomes compared

Two computations have the same outcome when both are refused for the same reason or both yield, and
what they yield is related.
-/

namespace Kinematics

inductive SameOutcome {ε β γ : Type} (R : β → γ → Prop) : Except ε β → Except ε γ → Prop
  | refused (e : ε) : SameOutcome R (.error e) (.error e)
  | yields {x : β} {y : γ} (h : R x y) : SameOutcome R (.ok x) (.ok y)

namespace SameOutcome
variable {ε β γ δ ζ η : Type} {R : β → γ → Prop} {S : ζ → η → Prop}

theorem bind {first : Except ε β} {first' : Except ε γ} {next : β → Except ε ζ}
    {next' : γ → Except ε η} (h : SameOutcome R first first')
    (hnext : ∀ {x y}, R x y → SameOutcome S (next x) (next' y)) :
    SameOutcome S (first >>= next) (first' >>= next') := by
  cases h with
  | refused e => exact .refused e
  | yields h => exact hnext h

theorem check_bind {check check' : Except ε δ} {next : δ → Except ε β} {next' : δ → Except ε γ}
    (hcheck : check = check') (hnext : ∀ x, SameOutcome R (next x) (next' x)) :
    SameOutcome R (check >>= next) (check' >>= next') := by
  cases hcheck
  cases check with
  | error e => exact .refused e
  | ok x => exact hnext x

theorem ite {c : Prop} [Decidable c] {first second : Except ε β} {first' second' : Except ε γ}
    (h : SameOutcome R first first') (h' : SameOutcome R second second') :
    SameOutcome R (if c then first else second) (if c then first' else second') := by
  split
  case isTrue => exact h
  case isFalse => exact h'

theorem eq {outcome outcome' : Except ε β} (h : SameOutcome Eq outcome outcome') :
    outcome = outcome' := by
  cases h with
  | refused e => rfl
  | yields h => exact congrArg Except.ok h

/-- Related results that a function brings together. -/
theorem return_eq_map {outcome : Except ε β} {outcome' : Except ε γ} {f : β → δ} {g : γ → δ}
    (h : SameOutcome R outcome outcome') (hresult : ∀ {x y}, R x y → f x = g y) :
    (do return f (← outcome)) = outcome'.map g := by
  cases h with
  | refused e => rfl
  | yields h => exact congrArg Except.ok (hresult h)

end SameOutcome
end Kinematics
