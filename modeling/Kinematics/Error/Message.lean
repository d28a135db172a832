import Kinematics.Decimal.Shortest
import Kinematics.Error
import Kinematics.Text.Quoted

/-!
# The wording of errors
-/

namespace Kinematics

def Operand.text : Operand → String
  | cartesianData selection => selection.text ++ " data"
  | jointData selection => selection.text ++ " data"
  | gainRows => "gain matrix rows"
  | gainColumns => "gain matrix columns"
  | gainVector => "gain vector"
  | jointNames => "joint names"
  | maxima => "max absolute values"
  | noiseRatios => "noise ratios"
  | ellipseCoefficients => "ellipse coefficients"
  | ellipsoidData => "ellipsoid data"
  | described text => text

namespace ErrorKind

def text : ErrorKind → String
  | emptyState => "EmptyState"
  | incompatibleStates => "IncompatibleStates"
  | incompatibleSize => "IncompatibleSize"
  | jointNotFound => "JointNotFound"
  | invalidCast => "InvalidCast"
  | invalidParameter => "InvalidParameter"
  | notImplemented => "NotImplemented"
  | divisionByZero => "DivisionByZero"
  | invalidConfig => "InvalidConfig"

/-- What every message of the kind begins with. -/
def lead : ErrorKind → String
  | emptyState | incompatibleSize => ""
  | incompatibleStates => "incompatible states: "
  | jointNotFound => "joint not found: "
  | invalidCast => "invalid cast: "
  | invalidParameter => "invalid parameter: "
  | notImplemented => "not implemented: "
  | divisionByZero => "division by zero: "
  | invalidConfig => "invalid configuration: "

end ErrorKind

namespace StateError

/-- The cause in words. -/
def text : StateError Float → String
  | emptyState name => s!"{name} state is empty"
  | brokenChain name frame =>
      s!"cannot compose {name} with a state expressed in {frame}: expected {name}"
  | unrelatedFrames name frame otherName otherFrame =>
      s!"{name} expressed in {frame} is not related to {otherName} expressed in {otherFrame}"
  | differentJoints type name joints otherType otherName otherJoints =>
      s!"{type.text} {name} with joints {Text.quotedList joints} does not match " ++
        s!"{otherType.text} {otherName} with joints {Text.quotedList otherJoints}"
  | wrongSize operand expected actual =>
      s!"{operand.text} is of incorrect size: expected {expected}, got {actual}"
  | jointNotFound joint => joint
  | jointIndexOutOfRange index size =>
      s!"index {index} is out of range for joint state of size {size}"
  | noReferenceFrame name type => s!"{name} of type {type.text} has no reference frame"
  | cannotNormalize q =>
      let numbers := ", ".intercalate (q.toList.map numberText)
      s!"quaternion [{numbers}] cannot be normalized"
  | parameterHoldsOther name declared requested =>
      s!"parameter {name} holds a {declared.text}, not a {requested.text}"
  | parameterCannotHold name declared given =>
      s!"parameter {name} of type {declared.text} cannot hold a {given.text}"
  | parameterCannotBecome name declared given =>
      s!"parameter {name} of type {declared.text} cannot be replaced by a {given.text}"
  | unknownParameter name => s!"no parameter called {name}"
  | notAnEllipse discriminant =>
      s!"conic with discriminant {numberText discriminant} is not an ellipse"
  | degenerateEllipse => "conic coefficients describe a degenerate ellipse"
  | gainUndefined selection => s!"gain multiplication is not defined for {selection.text}"
  | clampUndefined selection => s!"clamping is not defined for {selection.text}"
  | stateDividedByZero name => s!"{name} state divided by zero"
  | jointStateDividedByZero name => s!"{name} joint state divided by zero"
  | zeroDuration name => s!"{name} differentiated over a zero duration"
  | negativeMaxLinear => "max_linear must be non-negative"
  | negativeMaxAngular => "max_angular must be non-negative"
  | ratioCount ratios joints => s!"{ratios} noise ratios given for {joints} joints"
  | negativeJointLimit => "joint limits must be non-negative"
  | ratioOutOfRange ratio => s!"noise ratio {numberText ratio} must be between 0 and 1"
  | unboundedDeadZone => "a dead zone needs a finite maximum"
  | described _ text => text

def message (e : StateError Float) : String := e.kind.lead ++ e.text

end StateError
end Kinematics
