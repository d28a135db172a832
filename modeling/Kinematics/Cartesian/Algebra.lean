import Kinematics.Cartesian.State
import Kinematics.Quaternion.Exponential

/-!
# Algebra of Cartesian states

Every operation reads filled states only. Those that take two operands want them related by
their frames; composition wants the second to be expressed in the first.
-/

namespace Kinematics.CartesianState
variable {α : Type} [Scalar α]

/-- The fields of a motion `b` inside a moving frame `a`, seen from the reference frame of `a`.
Velocities and accelerations carry the transport terms of the moving frame, and the torque is the
moment about the origin of the reference frame. -/
def composeValues (a b : CartesianValues α) : CartesianValues α :=
  let rotation := a.orientation
  let p := rotation.rotate b.position
  let v := rotation.rotate b.linearVelocity
  let w := rotation.rotate b.angularVelocity
  let f := rotation.rotate b.force
  let ω := a.angularVelocity
  let position := a.position + p
  { position
    orientation := (rotation * b.orientation.alignedWith rotation).normalize
    linearVelocity := a.linearVelocity + v + ω.cross p
    angularVelocity := ω + w
    linearAcceleration := a.linearAcceleration + rotation.rotate b.linearAcceleration +
      a.angularAcceleration.cross p + (ω.cross v).scale Scalar.two + ω.cross (ω.cross p)
    angularAcceleration := a.angularAcceleration + rotation.rotate b.angularAcceleration +
      ω.cross w
    force := a.force + f
    torque := a.torque + rotation.rotate b.torque + position.cross f }

/-- The state of `b` in the reference frame of `a`; `b` must be expressed in `a`. -/
def compose (a b : CartesianState α) (now : Instant) :
    Except (StateError α) (CartesianState α) := do
  a.assertFilled
  b.assertFilled
  if a.name ≠ b.frame then throw (.brokenChain a.name b.frame)
  return (new b.name a.frame now).setValues (composeValues a.values b.values)

/-- The inverse rotation, and each vector negated and turned back by it. -/
def inverseValues (v : CartesianValues α) : CartesianValues α :=
  let rotation := v.orientation.conjugate
  (v.mapVectors fun _ x => rotation.rotate (-x)).setOrientation rotation

/-- The state of the reference frame seen from the frame. -/
def inverse (s : CartesianState α) : Except (StateError α) (CartesianState α) := do
  s.assertFilled
  return { s with name := s.frame, frame := s.name, values := inverseValues s.values }

/-- Sum of the vectors and product of the rotations, each of `b` taken with the sign. -/
def combine (subtract : Bool) (a b : CartesianState α) :
    Except (StateError α) (CartesianState α) := do
  a.assertFilled
  b.assertFilled
  a.toSpatialState.assertCompatible b.toSpatialState
  let sign : α := if subtract then -1 else 1
  let aligned := b.values.orientation.alignedWith a.values.orientation
  let turn := if subtract then aligned.conjugate else aligned
  let values := (a.values.mapVectors fun field v => v + (b.values.vector field).scale sign)
    |>.setOrientation (a.values.orientation * turn).normalize
  return { a with values }

def add (a b : CartesianState α) : Except (StateError α) (CartesianState α) := combine false a b

def sub (a b : CartesianState α) : Except (StateError α) (CartesianState α) := combine true a b

def negate (s : CartesianState α) : Except (StateError α) (CartesianState α) := do
  s.assertFilled
  return { s with
    values := (s.values.mapVectors fun _ v => -v).setOrientation s.values.orientation.conjugate }

/-- Scales the vectors and the angle of the rotation, which is read in `[0, 2π]` about the
quaternion's own axis. -/
def scale (s : CartesianState α) (k : α) : Except (StateError α) (CartesianState α) := do
  s.assertFilled
  let turn := Quaternion.exp s.values.orientation.log.vectorPart k
  return { s with values := (s.values.mapVectors fun _ v => v.scale k).setOrientation turn }

def divide (s : CartesianState α) (k : α) : Except (StateError α) (CartesianState α) :=
  if k == 0 then .error (.stateDividedByZero s.name) else s.scale (1 / k)

/-- Makes the selected vectors unit vectors; zero vectors stay zero. -/
def normalize (s : CartesianState α) (selection : CartesianSelection) :
    Except (StateError α) (CartesianState α) := do
  s.assertFilled
  return { s with values := s.values.normalize selection.fields }

/-- The norm of each selected field, in storage order. -/
def norms (s : CartesianState α) (selection : CartesianSelection) :
    Except (StateError α) (List α) := do
  s.assertFilled
  return selection.fields.map fun
    | .orientation => s.values.orientation.norm
    | .vector field => (s.values.vector field).norm

/-- The angle between two rotations. -/
def angle (p q : Quaternion α) : α :=
  Scalar.acos (Scalar.clamp (Scalar.two * p.dot q * p.dot q - 1) (-1) 1)

/-- Sum of the distances between the selected fields. -/
def dist (a b : CartesianState α) (selection : CartesianSelection) :
    Except (StateError α) α := do
  a.assertFilled
  b.assertFilled
  a.toSpatialState.assertCompatible b.toSpatialState
  return Scalar.sum <| selection.fields.map fun
    | .orientation => angle a.values.orientation b.values.orientation
    | .vector field => (a.values.vector field - b.values.vector field).norm

end Kinematics.CartesianState
