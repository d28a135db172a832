import Kinematics.Error
import Kinematics.Time

/-!
# Identity of a state

What a state is, what it is called, whether it holds data yet, and since when.
-/

namespace Kinematics

structure State where
  type : StateType
  name : String
  empty : Bool
  timestamp : Instant

namespace State
variable {α : Type}

/-- A new state is empty. -/
def new (type : StateType) (name : String) (now : Instant) : State := ⟨type, name, true, now⟩

def setName (s : State) (name : String) : State := { s with name }

def setEmpty (s : State) (empty : Bool) : State := { s with empty }

def fill (s : State) : State := { s with empty := false }

def clear (s : State) : State := { s with empty := true }

def touch (s : State) (now : Instant) : State := { s with timestamp := now }

def age (s : State) (now : Instant) : Duration := s.timestamp.elapsed now

def isDeprecated (s : State) (threshold : Duration) (now : Instant) : Bool :=
  threshold.nanoseconds ≤ (s.age now).nanoseconds

def isYoungerThan (s : State) (threshold : Duration) (now : Instant) : Bool :=
  (s.age now).nanoseconds < threshold.nanoseconds

/-- States without further content only need to be of one kind. -/
def isCompatible (s t : State) : Bool := s.type = t.type

def assertFilled (s : State) : Except (StateError α) Unit :=
  if s.empty then .error (.emptyState s.name) else .ok ()

theorem assertFilled_eq_ok {s : State} (h : s.empty = false) :
    (s.assertFilled : Except (StateError α) Unit) = .ok () := by
  rw [assertFilled, h]
  rfl

theorem assertFilled_eq_ok_iff {s : State} :
    (s.assertFilled : Except (StateError α) Unit) = .ok () ↔ s.empty = false := by
  refine ⟨fun h => ?_, assertFilled_eq_ok⟩
  cases hempty : s.empty with
  | false => rfl
  | true =>
    rw [assertFilled, if_pos hempty] at h
    cases h

/-- What asks for a filled state first has found one when it returns. -/
theorem of_assertFilled_bind_eq_ok {β : Type} {s : State} {next : Unit → Except (StateError α) β}
    {r : β} (h : (s.assertFilled >>= next) = .ok r) : s.empty = false ∧ next () = .ok r := by
  cases hempty : s.empty with
  | false =>
    rw [assertFilled_eq_ok hempty] at h
    exact ⟨rfl, h⟩
  | true =>
    rw [assertFilled, if_pos hempty] at h
    cases h

/-- The seconds of a duration over which the state is differentiated. -/
def nonzeroSeconds [Scalar α] (s : State) (dt : Duration) : Except (StateError α) α :=
  if dt.seconds == (0 : α) then .error (.zeroDuration s.name) else .ok dt.seconds

end State
end Kinematics
