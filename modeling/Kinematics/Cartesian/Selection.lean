/-!
# Selections of Cartesian fields

A Cartesian state has eight fields, an orientation and seven vectors. A selection names some of
them, in storage order.
-/

namespace Kinematics

inductive VectorField where
  | position
  | linearVelocity
  | angularVelocity
  | linearAcceleration
  | angularAcceleration
  | force
  | torque
  deriving DecidableEq

inductive CartesianField where
  | orientation
  | vector (field : VectorField)
  deriving DecidableEq

inductive CartesianSelection where
  | position
  | orientation
  | pose
  | linearVelocity
  | angularVelocity
  | twist
  | linearAcceleration
  | angularAcceleration
  | acceleration
  | force
  | torque
  | wrench
  | all
  deriving DecidableEq

/-- How many numbers the field holds. -/
def CartesianField.size : CartesianField → Nat
  | orientation => 4
  | vector _ => 3

/-- The selection of a single vector. -/
def VectorField.selection : VectorField → CartesianSelection
  | position => .position
  | linearVelocity => .linearVelocity
  | angularVelocity => .angularVelocity
  | linearAcceleration => .linearAcceleration
  | angularAcceleration => .angularAcceleration
  | force => .force
  | torque => .torque

/-- The selection of a single field. -/
def CartesianField.selection : CartesianField → CartesianSelection
  | orientation => .orientation
  | vector field => field.selection

/-- All vectors, in storage order. -/
def VectorField.every : List VectorField :=
  [position, linearVelocity, angularVelocity, linearAcceleration, angularAcceleration, force,
    torque]

@[simp] theorem VectorField.mem_every (field : VectorField) : field ∈ every := by
  cases field <;> simp [every]

namespace CartesianSelection

/-- All selections. -/
def every : List CartesianSelection :=
  [position, orientation, pose, linearVelocity, angularVelocity, twist, linearAcceleration,
    angularAcceleration, acceleration, force, torque, wrench, all]

@[simp] theorem mem_every (selection : CartesianSelection) : selection ∈ every := by
  cases selection <;> simp [every]

/-- The selected fields, in storage order. -/
def fields : CartesianSelection → List CartesianField
  | position => [.vector .position]
  | orientation => [.orientation]
  | pose => [.vector .position, .orientation]
  | linearVelocity => [.vector .linearVelocity]
  | angularVelocity => [.vector .angularVelocity]
  | twist => [.vector .linearVelocity, .vector .angularVelocity]
  | linearAcceleration => [.vector .linearAcceleration]
  | angularAcceleration => [.vector .angularAcceleration]
  | acceleration => [.vector .linearAcceleration, .vector .angularAcceleration]
  | force => [.vector .force]
  | torque => [.vector .torque]
  | wrench => [.vector .force, .vector .torque]
  | all => [.vector .position, .orientation, .vector .linearVelocity, .vector .angularVelocity,
      .vector .linearAcceleration, .vector .angularAcceleration, .vector .force, .vector .torque]

/-- How many numbers the selected fields hold. -/
def size (selection : CartesianSelection) : Nat :=
  selection.fields.foldl (fun n field => n + field.size) 0

def containsOrientation (selection : CartesianSelection) : Bool :=
  selection.fields.contains .orientation

theorem containsOrientation_iff {selection : CartesianSelection} :
    selection.containsOrientation = true ↔ .orientation ∈ selection.fields :=
  List.contains_iff_mem

def text : CartesianSelection → String
  | position => "position"
  | orientation => "orientation"
  | pose => "pose"
  | linearVelocity => "linear velocity"
  | angularVelocity => "angular velocity"
  | twist => "twist"
  | linearAcceleration => "linear acceleration"
  | angularAcceleration => "angular acceleration"
  | acceleration => "acceleration"
  | force => "force"
  | torque => "torque"
  | wrench => "wrench"
  | all => "all"

end CartesianSelection

@[simp] theorem VectorField.fields_selection (field : VectorField) :
    field.selection.fields = [.vector field] := by
  cases field <;> rfl

@[simp] theorem CartesianField.fields_selection (field : CartesianField) :
    field.selection.fields = [field] := by
  cases field with
  | orientation => rfl
  | vector field => exact field.fields_selection

end Kinematics
