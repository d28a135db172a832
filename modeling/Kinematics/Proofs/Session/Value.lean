import Kinematics.Ellipsoid
import Kinematics.Parameter.Map
import Kinematics.Proofs.Cartesian.Operation
import Kinematics.Proofs.Joint.Operation

/-!
# Values that callers hold

States, and the parameters, maps and shapes that states are stored in. Numbers, names, limits and
instants are not values in this sense: they are arguments, and callers choose them freely.
-/

namespace Kinematics

inductive Value (α : Type) where
  | cartesian (s : CartesianState α)
  | projection {kind : CartesianKind} (p : CartesianProjection α kind)
  | joint (s : JointState α)
  | jointProjection {field : JointField} (p : JointProjection α field)
  | parameter (p : Parameter α)
  | map (m : ParameterMap α)
  | shape (s : Shape α)
  | ellipsoid (e : Ellipsoid α)

/-- The state that the value of a parameter is, if it is one. -/
def ParameterValue.state? {α : Type} : ParameterValue α → Option (Value α)
  | ⟨.cartesianState, s⟩ => some (.cartesian s)
  | ⟨.cartesianPose, p⟩ => some (.projection p)
  | ⟨.jointState, s⟩ => some (.joint s)
  | ⟨.jointPositions, p⟩ => some (.jointProjection p)
  | _ => none

/-- What callers keep to: which quaternions they give as rotations, and to what they set the
emptiness of a state. -/
structure Conduct (α : Type) where
  rotation : Quaternion α → Prop
  emptiness : Bool → Prop

/-- No restraint at all. -/
def Conduct.free {α : Type} : Conduct α := ⟨fun _ => True, fun _ => True⟩

section Allowed
variable {α : Type} (c : Conduct α)

def CartesianState.Change.Allowed : CartesianState.Change α → Prop
  | setEmpty empty => c.emptiness empty
  | setOrientation q => c.rotation q
  | _ => True

def CartesianProjection.Change.Allowed {kind : CartesianKind} :
    CartesianProjection.Change α kind → Prop
  | setEmpty empty => c.emptiness empty
  | setOrientation q => c.rotation q
  | _ => True

def JointState.Change.Allowed : JointState.Change α → Prop
  | setEmpty empty => c.emptiness empty
  | _ => True

def JointProjection.Change.Allowed : JointProjection.Change α → Prop
  | setEmpty empty => c.emptiness empty
  | _ => True

end Allowed

inductive Parameter.Change (α : Type) where
  | setName (name : String)
  | set (value : ParameterValue α)
  | clear

namespace Parameter.Change
variable {α : Type}

def operands : Change α → List (Value α)
  | set value => value.state?.toList
  | _ => []

def edit : Change α → Edit α (Parameter α) Unit
  | setName name => modify (·.setName name)
  | set value => Parameter.set value
  | clear => modify Parameter.clear

end Parameter.Change

inductive ParameterMap.Change (α : Type) where
  | setParameter (p : Parameter α)
  | setParameters (ps : List (Parameter α))
  | setMap (other : ParameterMap α)
  | setValue (name : String) (value : ParameterValue α) (now : Instant)
  | remove (name : String)

namespace ParameterMap.Change
variable {α : Type}

def operands : Change α → List (Value α)
  | setParameter p => [.parameter p]
  | setParameters ps => ps.map .parameter
  | setMap other => [.map other]
  | setValue _ value _ => value.state?.toList
  | remove _ => []

def edit : Change α → Edit α (ParameterMap α) Unit
  | setParameter p => ParameterMap.setParameter p
  | setParameters ps => ParameterMap.setParameters ps
  | setMap other => ParameterMap.setMap other
  | setValue name value now => ParameterMap.setValue name value now
  | remove name => do let _ ← ParameterMap.remove name

end ParameterMap.Change

inductive Shape.Change (α : Type) where
  | setName (name : String)
  | setCenter (pose : CartesianPose α)
  | setCenterPosition (position : Vector3 α)
  | setCenterOrientation (q : Quaternion α)

namespace Shape.Change
variable {α : Type}

def operands : Change α → List (Value α)
  | setCenter pose => [.projection pose]
  | _ => []

def Allowed (c : Conduct α) : Change α → Prop
  | setCenterOrientation q => c.rotation q
  | _ => True

def edit : Change α → Edit α (Shape α) Unit
  | setName name => modify (·.setName name)
  | setCenter pose => Shape.setCenter pose
  | setCenterPosition position => modify (·.setCenterPosition position)
  | setCenterOrientation q => modify (·.setCenterOrientation q)

end Shape.Change

inductive Ellipsoid.Change (α : Type) where
  | setCenter (pose : CartesianPose α)
  | setCenterPosition (position : Vector3 α)
  | setCenterOrientation (q : Quaternion α)
  | setAxes (x y : α)
  | setAngle (angle : α)
  | setData (data : List α)

namespace Ellipsoid.Change
variable {α : Type}

def operands : Change α → List (Value α)
  | setCenter pose => [.projection pose]
  | _ => []

def Allowed (c : Conduct α) : Change α → Prop
  | setCenterOrientation q => c.rotation q
  | _ => True

def edit : Change α → Edit α (Ellipsoid α) Unit
  | setCenter pose => Ellipsoid.setCenter pose
  | setCenterPosition position => modify (·.setCenterPosition position)
  | setCenterOrientation q => modify (·.setCenterOrientation q)
  | setAxes x y => modify (·.setAxes x y)
  | setAngle angle => modify (·.setAngle angle)
  | setData data => Ellipsoid.setData data

end Ellipsoid.Change
end Kinematics
