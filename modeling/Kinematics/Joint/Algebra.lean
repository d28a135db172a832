import Kinematics.Joint.State

/-!
# Algebra of joint states

Every operation reads filled states only, and two operands must be compatible.
-/

namespace Kinematics.JointState
variable {α : Type} [Scalar α]

/-- Multiplies the selected numbers by `k`. -/
def scaleSelection (s : JointState α) (k : α) (selection : JointSelection) :
    Except (StateError α) (JointState α) := do
  s.assertFilled
  return { s with values := s.values.scale k selection.fields }

def scale (s : JointState α) (k : α) : Except (StateError α) (JointState α) :=
  s.scaleSelection k .all

def divide (s : JointState α) (k : α) : Except (StateError α) (JointState α) :=
  if k == 0 then .error (.jointStateDividedByZero s.name) else s.scale (1 / k)

/-- Adds the numbers of `b`, each times `sign`. -/
def combine (sign : α) (a b : JointState α) : Except (StateError α) (JointState α) := do
  a.assertFilled
  b.assertFilled
  a.assertCompatible b
  return { a with values := a.values.zipWith (fun x y => x + sign * y) b.values }

def add (a b : JointState α) : Except (StateError α) (JointState α) := combine 1 a b

def sub (a b : JointState α) : Except (StateError α) (JointState α) := combine (-1) a b

/-- Sum of the Euclidean distances between the selected fields. -/
def dist (a b : JointState α) (selection : JointSelection) : Except (StateError α) α := do
  a.assertFilled
  b.assertFilled
  a.assertCompatible b
  return Scalar.sum <| selection.fields.map fun field =>
    Scalar.norm (List.zipWith (· - ·) (a.values.get field) (b.values.get field))

end Kinematics.JointState
