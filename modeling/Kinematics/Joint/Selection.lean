/-!
# Selections of joint fields

A joint state has four fields, each with one number per joint.
-/

namespace Kinematics

inductive JointField where
  | positions
  | velocities
  | accelerations
  | torques
  deriving DecidableEq

inductive JointSelection where
  | positions
  | velocities
  | accelerations
  | torques
  | all
  deriving DecidableEq

/-- The selection of a single field. -/
def JointField.selection : JointField → JointSelection
  | positions => .positions
  | velocities => .velocities
  | accelerations => .accelerations
  | torques => .torques

namespace JointSelection

/-- All selections. -/
def every : List JointSelection := [positions, velocities, accelerations, torques, all]

@[simp] theorem mem_every (selection : JointSelection) : selection ∈ every := by
  cases selection <;> simp [every]

/-- The selected fields, in storage order. -/
def fields : JointSelection → List JointField
  | positions => [.positions]
  | velocities => [.velocities]
  | accelerations => [.accelerations]
  | torques => [.torques]
  | all => [.positions, .velocities, .accelerations, .torques]

/-- How many numbers the selected fields hold for a robot with `joints` joints. -/
def size (selection : JointSelection) (joints : Nat) : Nat := selection.fields.length * joints

def text : JointSelection → String
  | positions => "positions"
  | velocities => "velocities"
  | accelerations => "accelerations"
  | torques => "torques"
  | all => "all"

end JointSelection

@[simp] theorem JointField.fields_selection (field : JointField) :
    field.selection.fields = [field] := by
  cases field <;> rfl

end Kinematics
