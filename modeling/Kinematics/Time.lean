import Kinematics.Scalar

/-!
# Instants and durations

Both count nanoseconds.
-/

namespace Kinematics

structure Instant where
  nanoseconds : Nat
  deriving DecidableEq

/-- The instant right after `t`: when one step makes two things, the second is made then. -/
def Instant.next (t : Instant) : Instant := ⟨t.nanoseconds + 1⟩

structure Duration where
  nanoseconds : Nat
  deriving DecidableEq

namespace Duration

def ofSeconds (seconds nanoseconds : Nat) : Duration :=
  ⟨seconds * Nat.pow 10 9 + nanoseconds⟩

instance : Add Duration := ⟨fun a b => ⟨a.nanoseconds + b.nanoseconds⟩⟩

/-- Whole seconds and the remaining fraction are converted apart and added. -/
def seconds {α : Type} [Scalar α] (d : Duration) : α :=
  ((d.nanoseconds / Nat.pow 10 9 : Nat) : α) +
    ((d.nanoseconds % Nat.pow 10 9 : Nat) : α) / (Nat.pow 10 9 : α)

end Duration

/-- The time that has passed from `t` to `now`. -/
def Instant.elapsed (t now : Instant) : Duration := ⟨now.nanoseconds - t.nanoseconds⟩

end Kinematics
