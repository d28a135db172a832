import Kinematics.StateType
import Kinematics.Cartesian.Selection
import Kinematics.Joint.Selection
import Kinematics.Parameter.Type
import Kinematics.Quaternion

/-!
# Why an operation is refused

An error is the cause of a refusal. Its kind is the coarse class that callers branch on.
-/

namespace Kinematics

inductive ErrorKind where
  | emptyState
  | incompatibleStates
  | incompatibleSize
  | jointNotFound
  | invalidCast
  | invalidParameter
  | notImplemented
  | divisionByZero
  | invalidConfig
  deriving DecidableEq

/-- What was given in the wrong size. -/
inductive Operand where
  | cartesianData (selection : CartesianSelection)
  | jointData (selection : JointSelection)
  | gainRows
  | gainColumns
  | gainVector
  | jointNames
  | maxima
  | noiseRatios
  | ellipseCoefficients
  | ellipsoidData
  | described (text : String)
  deriving DecidableEq

inductive StateError (α : Type) where
  /-- The numeric content or the value was read before it was written. -/
  | emptyState (name : String)
  /-- A state expressed in `frame` cannot follow the frame `name` in a chain. -/
  | brokenChain (name frame : String)
  | unrelatedFrames (name frame otherName otherFrame : String)
  | differentJoints (type : StateType) (name : String) (joints : List String)
      (otherType : StateType) (otherName : String) (otherJoints : List String)
  | wrongSize (operand : Operand) (expected actual : Nat)
  | jointNotFound (joint : String)
  | jointIndexOutOfRange (index size : Nat)
  | noReferenceFrame (name : String) (type : StateType)
  | cannotNormalize (quaternion : Quaternion α)
  | parameterHoldsOther (name : String) (declared requested : ParameterType)
  | parameterCannotHold (name : String) (declared given : ParameterType)
  | parameterCannotBecome (name : String) (declared given : ParameterType)
  | unknownParameter (name : String)
  | notAnEllipse (discriminant : α)
  | degenerateEllipse
  | gainUndefined (selection : CartesianSelection)
  | clampUndefined (selection : CartesianSelection)
  | stateDividedByZero (name : String)
  | jointStateDividedByZero (name : String)
  | zeroDuration (name : String)
  | negativeMaxLinear
  | negativeMaxAngular
  | ratioCount (ratios joints : Nat)
  | negativeJointLimit
  | ratioOutOfRange (ratio : α)
  | unboundedDeadZone
  /-- A cause given in words. -/
  | described (kind : ErrorKind) (text : String)

namespace StateError
variable {α : Type}

def kind : StateError α → ErrorKind
  | emptyState _ => .emptyState
  | brokenChain .. | unrelatedFrames .. | differentJoints .. => .incompatibleStates
  | wrongSize .. => .incompatibleSize
  | jointNotFound _ | jointIndexOutOfRange .. => .jointNotFound
  | noReferenceFrame .. => .invalidCast
  | cannotNormalize _ | parameterHoldsOther .. | parameterCannotHold .. | parameterCannotBecome ..
  | unknownParameter _ | notAnEllipse _ | degenerateEllipse => .invalidParameter
  | gainUndefined _ | clampUndefined _ => .notImplemented
  | stateDividedByZero _ | jointStateDividedByZero _ | zeroDuration _ => .divisionByZero
  | negativeMaxLinear | negativeMaxAngular | ratioCount .. | negativeJointLimit
  | ratioOutOfRange _ | unboundedDeadZone => .invalidConfig
  | described kind _ => kind

def isEmptyState (e : StateError α) : Bool := e.kind = .emptyState

def isIncompatibleStates (e : StateError α) : Bool := e.kind = .incompatibleStates

def isWrongSize (e : StateError α) : Bool := e.kind = .incompatibleSize

end StateError
end Kinematics
