/-!
# Kinds of parameters
-/

namespace Kinematics

/-- The kind of value that a parameter is declared to hold. -/
inductive ParameterType where
  | int
  | intArray
  | double
  | doubleArray
  | bool
  | boolArray
  | string
  | stringArray
  | cartesianState
  | cartesianPose
  | jointState
  | jointPositions
  | matrix
  | vector
  deriving DecidableEq

namespace ParameterType

/-- All kinds of parameters. -/
def every : List ParameterType :=
  [int, intArray, double, doubleArray, bool, boolArray, string, stringArray, cartesianState,
    cartesianPose, jointState, jointPositions, matrix, vector]

@[simp] theorem mem_every (type : ParameterType) : type ∈ every := by
  cases type <;> simp [every]

def text : ParameterType → String
  | int => "Int"
  | intArray => "IntArray"
  | double => "Double"
  | doubleArray => "DoubleArray"
  | bool => "Bool"
  | boolArray => "BoolArray"
  | string => "String"
  | stringArray => "StringArray"
  | cartesianState => "CartesianState"
  | cartesianPose => "CartesianPose"
  | jointState => "JointState"
  | jointPositions => "JointPositions"
  | matrix => "Matrix"
  | vector => "Vector"

end ParameterType
end Kinematics
