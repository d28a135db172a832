import Kinematics.Cartesian.Pose
import Kinematics.Edit

/-!
# Shapes
-/

namespace Kinematics

/-- A named shape about a center pose. The shape is empty until it is set; its center never is. -/
structure Shape (α : Type) extends State where
  center : CartesianPose α

namespace Shape
variable {α : Type}

instance : StateLike (Shape α) := ⟨fun s => s.toState, fun _ => none⟩

def setName (s : Shape α) (name : String) : Shape α := { s with name }

/-- The frame in which the center is expressed. -/
def frame (s : Shape α) : String := s.center.general.frame

def centerPosition (s : Shape α) : Vector3 α := s.center.general.values.position

def centerOrientation (s : Shape α) : Quaternion α := s.center.general.values.orientation

/-- Sets the center to a filled pose. -/
def setCenter (pose : CartesianPose α) : Edit α (Shape α) Unit := do
  Edit.require pose.general.assertFilled
  modify fun s => { s with center := pose, empty := false }

def setCenterPosition (s : Shape α) (position : Vector3 α) : Shape α :=
  { s with center := s.center.setPosition position, empty := false }

def setCenterOrientation (s : Shape α) (q : Quaternion α) : Shape α :=
  { s with center := s.center.setOrientation q, empty := false }

variable [Scalar α]

/-- The shape is made before its center, which is therefore the younger of the two. -/
def ofType (type : StateType) (name frame : String) (now : Instant) : Shape α :=
  { State.new type name now with center := .identity name frame now.next }

/-- An empty shape at the origin of its reference frame. -/
def new (name frame : String) (now : Instant) : Shape α := ofType .shape name frame now

end Shape
end Kinematics
