import Kinematics.Scalar.Binary64
import Kinematics.Cartesian.Calculus
import Kinematics.Joint.Calculus
import Kinematics.Parameter.Map
import Kinematics.Ellipsoid
import Kinematics.Random
import Kinematics.Error.Message
import Kinematics.Joint.Sized
import Kinematics.Proofs.Cartesian.Moment
import Kinematics.Proofs.Cartesian.Action
import Kinematics.Proofs.Cartesian.Inverse
import Kinematics.Proofs.Cartesian.Consistency
import Kinematics.Proofs.Ellipse
import Kinematics.Proofs.Joint.Confined
import Kinematics.Proofs.Parameter.Carries
import Kinematics.Proofs.Session.Run
import Kinematics.Proofs.Session.Invariant
import Kinematics.Proofs.Session.Confined
import Kinematics.Proofs.Cartesian.Change
import Kinematics.Proofs.Cartesian.Orientation
import Kinematics.Proofs.Session.Orientation
import Kinematics.Proofs.Parameter.Outcome
import Kinematics.Proofs.Session.Refusal
import Kinematics.Proofs.Parameter.Consistent
import Kinematics.Proofs.Text.ByteOrder
import Kinematics.Proofs.Parameter.Batch
import Kinematics.Proofs.Parameter.Registry
import Kinematics.Proofs.Joint.Strict
import Kinematics.Proofs.Joint.Fits
import Kinematics.Proofs.Session.Sized
import Kinematics.Proofs.Cartesian.Expression
import Kinematics.Proofs.Cartesian.Filled
import Kinematics.Proofs.Joint.Filled
import Kinematics.Proofs.Session.Reads
import Kinematics.Proofs.Emptiness
import Kinematics.Proofs.Session.Blank
import Kinematics.Proofs.Rotation.Angle
import Kinematics.Proofs.Cartesian.Projected
import Kinematics.Proofs.Joint.Projected
import Kinematics.Proofs.Cartesian.DoubleCover
import Kinematics.Proofs.Projected
import Kinematics.Proofs.Cartesian.Calculus
import Kinematics.Proofs.Rotation.Multiple
import Kinematics.Proofs.Cartesian.Displacement
import Kinematics.Proofs.Cartesian.Multiple
import Kinematics.Proofs.Cartesian.Cancellation
import Kinematics.Proofs.Rotation.Distance
import Kinematics.Proofs.Cartesian.Distance
import Kinematics.Proofs.Cartesian.RigidMotion
import Kinematics.Proofs.Cartesian.ChangeOfFrame
import Kinematics.Proofs.Cartesian.Involution
import Kinematics.Proofs.Scalar.Partial
import Kinematics.Proofs.Ellipse.Acceptance
import Kinematics.Proofs.Ellipse.Multiple
import Kinematics.Proofs.Session.Sampling
import Kinematics.Proofs.Cartesian.Layout
import Kinematics.Proofs.Limits
import Kinematics.Proofs.Cartesian.Clamp
import Kinematics.Proofs.Joint.Clamp
import Kinematics.Proofs.Attenuation
import Kinematics.Proofs.Joint.FlatArray
import Kinematics.Proofs.Matrix
import Kinematics.Proofs.Joint.Sum
import Kinematics.Proofs.Joint.Gain
import Kinematics.Proofs.Joint.Distance
import Kinematics.Proofs.Cartesian.Gain
import Kinematics.Proofs.Rotation.Exponential
import Kinematics.Proofs.Joint.Numbered
