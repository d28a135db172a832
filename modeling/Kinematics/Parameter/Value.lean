import Kinematics.Cartesian.Projection
import Kinematics.Joint.Projection

/-!
# Values of parameters
-/

namespace Kinematics

/-- The values of each kind of parameter. -/
def ParameterType.Payload (α : Type) : ParameterType → Type
  | int => Int32
  | intArray => List Int32
  | double => α
  | doubleArray => List α
  | bool => Bool
  | boolArray => List Bool
  | string => String
  | stringArray => List String
  | cartesianState => CartesianState α
  | cartesianPose => CartesianPose α
  | jointState => JointState α
  | jointPositions => JointPositions α
  | matrix => DenseMatrix α
  | vector => List α

/-- A value together with its kind. -/
structure ParameterValue (α : Type) where
  type : ParameterType
  payload : type.Payload α

/-- The value, if it is of the kind asked for. -/
def ParameterValue.as? {α : Type} (v : ParameterValue α) (type : ParameterType) :
    Option (type.Payload α) :=
  if h : v.type = type then some (h ▸ v.payload) else none

@[simp] theorem ParameterValue.as?_mk {α : Type} (type : ParameterType)
    (payload : type.Payload α) : (ParameterValue.mk type payload).as? type = some payload := by
  simp [ParameterValue.as?]

end Kinematics
