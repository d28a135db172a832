import Kinematics.Edit
import Kinematics.Joint.Values
import Kinematics.Spatial

/-!
# Joint states

Positions, velocities, accelerations and torques of the named joints of a robot. Names may
repeat; a look-up by name finds the first.
-/

namespace Kinematics

structure JointState (α : Type) extends State where
  names : List String
  values : JointValues α

/-- The joints of a robot that nobody has named. -/
def defaultJointNames (joints : Nat) : List String :=
  (List.range joints).map fun i => "joint" ++ toString i

namespace JointState
variable {α : Type}

instance : StateLike (JointState α) := ⟨fun s => s.toState, fun _ => none⟩

def size (s : JointState α) : Nat := s.names.length

def setName (s : JointState α) (name : String) : JointState α := { s with name }

def setEmpty (s : JointState α) (empty : Bool) : JointState α := { s with empty }

def touch (s : JointState α) (now : Instant) : JointState α := { s with timestamp := now }

/-- Replaces the fields and marks the state filled. -/
def setValues (s : JointState α) (values : JointValues α) : JointState α :=
  { s with values, empty := false }

/-- Renames the joints; their number stays. -/
def setNames (names : List String) : Edit α (JointState α) Unit := do
  let s ← get
  if names.length ≠ s.size then throw (.wrongSize .jointNames s.size names.length)
  set { s with names }

/-- The index of the first joint of that name. -/
def jointIndex (s : JointState α) (joint : String) : Except (StateError α) Nat :=
  match s.names.findIdx? (· = joint) with
  | some i => .ok i
  | none => .error (.jointNotFound joint)

def checkIndex (s : JointState α) (index : Nat) : Except (StateError α) Unit :=
  if s.size ≤ index then .error (.jointIndexOutOfRange index s.size) else .ok ()

/-- The number at an index of a field. -/
def valueAt (s : JointState α) (field : JointField) (index : Nat) : Except (StateError α) α :=
  match (s.values.get field)[index]? with
  | some x => .ok x
  | none => .error (.jointIndexOutOfRange index s.size)

/-- The number of the first joint of that name in a field. -/
def value (s : JointState α) (field : JointField) (joint : String) : Except (StateError α) α := do
  s.valueAt field (← s.jointIndex joint)

def setValueAt (field : JointField) (index : Nat) (x : α) : Edit α (JointState α) Unit := do
  let s ← get
  Edit.require (s.checkIndex index)
  set (s.setValues (s.values.set field ((s.values.get field).set index x)))

def setValue (field : JointField) (joint : String) (x : α) : Edit α (JointState α) Unit := do
  setValueAt field (← (← get).jointIndex joint) x

/-- Of one kind and with the same joints in the same order. -/
def isCompatible (s t : JointState α) : Bool :=
  s.toState.isCompatible t.toState && decide (s.names = t.names)

def assertCompatible (s t : JointState α) : Except (StateError α) Unit :=
  if s.isCompatible t then .ok ()
  else .error (.differentJoints s.type s.name s.names t.type t.name t.names)

/-- The selected numbers in storage order, of an empty state too. -/
def read (s : JointState α) (selection : JointSelection) : List α :=
  s.values.read selection.fields

/-- Writes the selected fields from one number per joint each and marks the state filled. -/
def write (selection : JointSelection) (data : List α) : Edit α (JointState α) Unit := do
  let s ← get
  if data.length ≠ selection.size s.size then
    throw (.wrongSize (.jointData selection) (selection.size s.size) data.length)
  set (s.setValues (s.values.write s.size selection.fields data))

/-- All numbers of a filled state. -/
def data (s : JointState α) : Except (StateError α) (List α) := do
  s.assertFilled
  return s.read .all

def setData (data : List α) : Edit α (JointState α) Unit := write .all data

variable [Scalar α]

def ofType (type : StateType) (name : String) (names : List String) (now : Instant) :
    JointState α :=
  { State.new type name now with names, values := .zeros names.length }

/-- An empty state of the named joints. -/
def new (name : String) (names : List String) (now : Instant) : JointState α :=
  ofType .jointState name names now

/-- An empty state of unnamed joints. -/
def withSize (name : String) (joints : Nat) (now : Instant) : JointState α :=
  new name (defaultJointNames joints) now

/-- A filled state with all numbers zero. -/
def zero (name : String) (names : List String) (now : Instant) : JointState α :=
  (new name names now).setEmpty false

/-- All numbers zero; emptiness stays. -/
def setZero (s : JointState α) : JointState α :=
  { s with values := s.values.mapFields fun _ xs => xs.map fun _ => 0 }

/-- All numbers zero, and the state empty. -/
def clear (s : JointState α) : JointState α := { s.setZero with empty := true }

end JointState
end Kinematics
