/-!
# Kinds of states
-/

namespace Kinematics

/-- The tag that says what a state is. -/
inductive StateType where
  | state
  | spatialState
  | cartesianState
  | cartesianPose
  | cartesianTwist
  | cartesianAcceleration
  | cartesianWrench
  | jointState
  | jointPositions
  | jointVelocities
  | jointAccelerations
  | jointTorques
  | shape
  | ellipsoid
  | parameter
  deriving DecidableEq

namespace StateType

/-- All kinds of states. -/
def every : List StateType :=
  [state, spatialState, cartesianState, cartesianPose, cartesianTwist, cartesianAcceleration,
    cartesianWrench, jointState, jointPositions, jointVelocities, jointAccelerations, jointTorques,
    shape, ellipsoid, parameter]

@[simp] theorem mem_every (type : StateType) : type ∈ every := by
  cases type <;> simp [every]

/-- Does the kind carry a reference frame? -/
def isSpatial : StateType → Bool
  | spatialState | cartesianState | cartesianPose | cartesianTwist | cartesianAcceleration
  | cartesianWrench => true
  | _ => false

/-- Does the kind live in joint space? -/
def isJoint : StateType → Bool
  | jointState | jointPositions | jointVelocities | jointAccelerations | jointTorques => true
  | _ => false

def text : StateType → String
  | state => "State"
  | spatialState => "SpatialState"
  | cartesianState => "CartesianState"
  | cartesianPose => "CartesianPose"
  | cartesianTwist => "CartesianTwist"
  | cartesianAcceleration => "CartesianAcceleration"
  | cartesianWrench => "CartesianWrench"
  | jointState => "JointState"
  | jointPositions => "JointPositions"
  | jointVelocities => "JointVelocities"
  | jointAccelerations => "JointAccelerations"
  | jointTorques => "JointTorques"
  | shape => "Shape"
  | ellipsoid => "Ellipsoid"
  | parameter => "Parameter"

end StateType
end Kinematics
