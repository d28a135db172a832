import Kinematics.State

/-!
# Reference frames
-/

namespace Kinematics

/-- The frame in which a state is expressed when none is given. -/
def worldFrame : String := "world"

/-- A state expressed in a named reference frame. -/
structure SpatialState extends State where
  frame : String

/-- The values that have the identity of a state, some of them with a reference frame. -/
class StateLike (σ : Type) where
  state : σ → State
  spatial? : σ → Option SpatialState

instance : StateLike State := ⟨id, fun _ => none⟩
instance : StateLike SpatialState := ⟨SpatialState.toState, some⟩

namespace SpatialState
variable {α : Type}

def new (name frame : String) (now : Instant) : SpatialState :=
  { State.new .spatialState name now with frame }

/-- One is named as the other's reference frame, or both share theirs. -/
def isCompatible (s t : SpatialState) : Bool :=
  s.name = t.frame || s.frame = t.name || s.frame = t.frame

def assertCompatible (s t : SpatialState) : Except (StateError α) Unit :=
  if s.isCompatible t then .ok ()
  else .error (.unrelatedFrames s.name s.frame t.name t.frame)

/-- Is `other` unrelated to `s`? A state without a reference frame cannot be asked. -/
def isIncompatibleWith {σ : Type} [StateLike σ] (s : SpatialState) (other : σ) :
    Except (StateError α) Bool :=
  match StateLike.spatial? other with
  | some t => .ok (!s.isCompatible t)
  | none => .error (.noReferenceFrame (StateLike.state other).name (StateLike.state other).type)

end SpatialState
end Kinematics
