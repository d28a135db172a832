import Kinematics.Edit
import Kinematics.Parameter.Value

/-!
# Parameters

A parameter is declared with a kind and holds a value of that kind, or none yet.
-/

namespace Kinematics

structure Parameter (α : Type) extends State where
  declared : ParameterType
  value? : Option (ParameterValue α)

namespace Parameter
variable {α : Type}

instance : StateLike (Parameter α) := ⟨fun p => p.toState, fun _ => none⟩

/-- Declares a parameter without a value. -/
def new (name : String) (type : ParameterType) (now : Instant) : Parameter α :=
  { State.new .parameter name now with declared := type, value? := none }

/-- A parameter of the kind of its value. -/
def ofValue (name : String) (value : ParameterValue α) (now : Instant) : Parameter α :=
  { State.new .parameter name now with empty := false, declared := value.type, value? := value }

def setName (p : Parameter α) (name : String) : Parameter α := { p with name }

def value (p : Parameter α) : Except (StateError α) (ParameterValue α) :=
  match p.value? with
  | some v => .ok v
  | none => .error (.emptyState p.name)

/-- The value as one of the kind asked for. -/
def get (p : Parameter α) (type : ParameterType) : Except (StateError α) (type.Payload α) := do
  match (← p.value).as? type with
  | some x => return x
  | none => throw (.parameterHoldsOther p.name p.declared type)

/-- Replaces the value by one of the declared kind. -/
def set (value : ParameterValue α) : Edit α (Parameter α) Unit := do
  let p ← MonadState.get
  if value.type ≠ p.declared then throw (.parameterCannotHold p.name p.declared value.type)
  MonadState.set { p with value? := some value, empty := false }

/-- Drops the value; the declared kind stays. -/
def clear (p : Parameter α) : Parameter α := { p with value? := none, empty := true }

end Parameter
end Kinematics
