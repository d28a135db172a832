import Kinematics.Cartesian.Gain
import Kinematics.Cartesian.Projection
import Kinematics.Limits

/-!
# Screws

Twists, accelerations and wrenches.
-/

namespace Kinematics.CartesianScrew
variable {α : Type} {kind : ScrewKind}

def linear (s : CartesianScrew α kind) : Vector3 α := s.general.values.vector kind.linear

def angular (s : CartesianScrew α kind) : Vector3 α := s.general.values.vector kind.angular

def setLinear (s : CartesianScrew α kind) (v : Vector3 α) : CartesianScrew α kind :=
  s.map (·.setVector kind.linear v)

def setAngular (s : CartesianScrew α kind) (v : Vector3 α) : CartesianScrew α kind :=
  s.map (·.setVector kind.angular v)

variable [Scalar α]

/-- A filled screw with both vectors zero. -/
def zero (kind : ScrewKind) (name frame : String) (now : Instant) : CartesianScrew α kind :=
  setLinear (.new (.screw kind) name frame now) 0

def ofParts (kind : ScrewKind) (name : String) (linear angular : Vector3 α) (frame : String)
    (now : Instant) : CartesianScrew α kind :=
  setAngular (setLinear (.new (.screw kind) name frame now) linear) angular

/-- Bounds the linear and the angular vector, each by its own limit. -/
def clamp (limits : CartesianLimits α) : Edit α (CartesianScrew α kind) Unit := do
  CartesianProjection.lift
    (CartesianState.clamp limits.maxLinear kind.linear.selection limits.linearRatio)
  CartesianProjection.lift
    (CartesianState.clamp limits.maxAngular kind.angular.selection limits.angularRatio)

/-- Bounds a screw by limits that are checked first. -/
def clampWith (limits : CartesianLimits α) : Edit α (CartesianScrew α kind) Unit := do
  Edit.require limits.validate
  clamp limits

/-- Multiplies the linear and angular vector, taken as one, by a gain. The linear and angular
parts of an acceleration do not mix: it is multiplied by the diagonal blocks only. -/
def scaleByMatrix (s : CartesianScrew α kind) (gain : Fin 6 → Fin 6 → α) :
    Except (StateError α) (CartesianScrew α kind) := do
  s.general.assertFilled
  if kind = .acceleration then
    let upper := s.linear.mapBy fun i j => gain (i.castAdd 3) (j.castAdd 3)
    let lower := s.angular.mapBy fun i j => gain (i.natAdd 3) (j.natAdd 3)
    return setAngular (setLinear s upper) lower
  else
    let values := s.general.read (CartesianKind.screw kind).selection
    (CartesianProjection.setData ((DenseMatrix.mk 6 6 gain).mulVec values)).onCopy s

end Kinematics.CartesianScrew
