import Kinematics.Parameter

/-!
# Parameters by name

The parameters of a map stand in the order of their names.
-/

namespace Kinematics

structure ParameterMap (α : Type) where
  entries : List (String × Parameter α)

namespace ParameterMap
variable {α : Type}

/-- Puts an entry in its place, where it replaces one of the same name. -/
def insertEntry (name : String) (p : Parameter α) :
    List (String × Parameter α) → List (String × Parameter α)
  | [] => [(name, p)]
  | (other, q) :: rest =>
      if name < other then (name, p) :: (other, q) :: rest
      else if name = other then (name, p) :: rest
      else (other, q) :: insertEntry name p rest

def empty : ParameterMap α := ⟨[]⟩

def size (m : ParameterMap α) : Nat := m.entries.length

def isEmpty (m : ParameterMap α) : Bool := m.entries.isEmpty

def find? (m : ParameterMap α) (name : String) : Option (Parameter α) := m.entries.lookup name

def insert (m : ParameterMap α) (name : String) (p : Parameter α) : ParameterMap α :=
  ⟨insertEntry name p m.entries⟩

def erase (m : ParameterMap α) (name : String) : ParameterMap α :=
  ⟨m.entries.filter (·.1 ≠ name)⟩

def contains (m : ParameterMap α) (name : String) : Bool := (m.find? name).isSome

/-- The parameters in the order of their names. -/
def toList (m : ParameterMap α) : List (Parameter α) := m.entries.map (·.2)

def parameter (m : ParameterMap α) (name : String) : Except (StateError α) (Parameter α) :=
  match m.find? name with
  | some p => .ok p
  | none => .error (.unknownParameter name)

/-- The value of a parameter as one of the kind asked for. -/
def value (m : ParameterMap α) (name : String) (type : ParameterType) :
    Except (StateError α) (type.Payload α) := do
  (← m.parameter name).get type

/-- Inserts a parameter, or replaces one that is declared with the same kind. -/
def setParameter (p : Parameter α) : Edit α (ParameterMap α) Unit := do
  match (← get).find? p.name with
  | some q =>
      if q.declared ≠ p.declared then
        throw (.parameterCannotBecome p.name q.declared p.declared)
  | none => pure ()
  modify (·.insert p.name p)

/-- Sets the parameters in turn, up to the first that is refused. -/
def setParameters (ps : List (Parameter α)) : Edit α (ParameterMap α) Unit :=
  ps.forM setParameter

/-- Sets every parameter of another map, in the order of their names. -/
def setMap (other : ParameterMap α) : Edit α (ParameterMap α) Unit := setParameters other.toList

def ofList (ps : List (Parameter α)) : Except (StateError α) (ParameterMap α) :=
  (setParameters ps).onCopy empty

/-- Sets the value of a parameter, which is declared if there is none of that name. -/
def setValue (name : String) (value : ParameterValue α) (now : Instant) :
    Edit α (ParameterMap α) Unit := do
  match (← get).find? name with
  | some p =>
      let p ← (Parameter.set value).onCopy p
      modify (·.insert name p)
  | none => setParameter (.ofValue name value now)

/-- Takes a parameter out of the map. -/
def remove (name : String) : Edit α (ParameterMap α) (Parameter α) := do
  let p ← (← get).parameter name
  modify (·.erase name)
  return p

end ParameterMap
end Kinematics
