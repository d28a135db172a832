import Kinematics.Cartesian.Values
import Kinematics.Edit
import Kinematics.Spatial

/-!
# Cartesian states

The full kinematic state of a frame, expressed in a reference frame. A state is empty until a
field is written.
-/

namespace Kinematics

structure CartesianState (α : Type) extends SpatialState where
  values : CartesianValues α

namespace CartesianState
variable {α : Type}

instance : StateLike (CartesianState α) := ⟨fun s => s.toState, fun s => some s.toSpatialState⟩

def setName (s : CartesianState α) (name : String) : CartesianState α := { s with name }

def setFrame (s : CartesianState α) (frame : String) : CartesianState α := { s with frame }

def setEmpty (s : CartesianState α) (empty : Bool) : CartesianState α := { s with empty }

def touch (s : CartesianState α) (now : Instant) : CartesianState α := { s with timestamp := now }

/-- Replaces the fields and marks the state filled. -/
def setValues (s : CartesianState α) (values : CartesianValues α) : CartesianState α :=
  { s with values, empty := false }

def setVector (s : CartesianState α) (field : VectorField) (x : Vector3 α) : CartesianState α :=
  s.setValues (s.values.setVector field x)

def setOrientation (s : CartesianState α) (q : Quaternion α) : CartesianState α :=
  s.setValues (s.values.setOrientation q)

/-- The selected numbers in storage order, of an empty state too. -/
def read (s : CartesianState α) (selection : CartesianSelection) : List α :=
  s.values.read selection.fields

/-- All 25 numbers of a filled state. -/
def data (s : CartesianState α) : Except (StateError α) (List α) := do
  s.assertFilled
  return s.read .all

variable [Scalar α]

def ofType (type : StateType) (name frame : String) (now : Instant) : CartesianState α :=
  { State.new type name now with frame, values := .identity }

/-- An empty state with all fields at identity. -/
def new (name frame : String) (now : Instant) : CartesianState α :=
  ofType .cartesianState name frame now

/-- A filled state with all fields at identity. -/
def identity (name frame : String) (now : Instant) : CartesianState α :=
  { (new name frame now : CartesianState α) with empty := false }

/-- Sets the orientation from coefficients of any norm that is not too small. -/
def setOrientationCoefficients (q : Quaternion α) : Edit α (CartesianState α) Unit := do
  let u ← q.unit
  modify (setOrientation · u)

/-- All fields at identity; emptiness stays. -/
def setZero (s : CartesianState α) : CartesianState α := { s with values := .identity }

/-- All fields at identity, and the state empty. -/
def clear (s : CartesianState α) : CartesianState α := { s.setZero with empty := true }

/-- Writes the selected fields from as many numbers as they hold and marks the state filled. -/
def write (selection : CartesianSelection) (data : List α) : Edit α (CartesianState α) Unit := do
  if data.length ≠ selection.size then
    throw (.wrongSize (.cartesianData selection) selection.size data.length)
  let values ← CartesianValues.write selection.fields data (← get).values
  modify (setValues · values)

def setData (data : List α) : Edit α (CartesianState α) Unit := write .all data

end CartesianState
end Kinematics
