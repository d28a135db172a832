import Kinematics.Cartesian.Algebra

/-!
# Projections of Cartesian states

A projection carries the fields of its kind only; all others rest at identity. A screw is a
linear vector together with an angular one.
-/

namespace Kinematics

inductive ScrewKind where
  | twist
  | acceleration
  | wrench
  deriving DecidableEq

inductive CartesianKind where
  | pose
  | screw (kind : ScrewKind)
  deriving DecidableEq

namespace ScrewKind

def linear : ScrewKind → VectorField
  | twist => .linearVelocity
  | acceleration => .linearAcceleration
  | wrench => .force

def angular : ScrewKind → VectorField
  | twist => .angularVelocity
  | acceleration => .angularAcceleration
  | wrench => .torque

end ScrewKind

namespace CartesianKind

/-- The fields that a projection of the kind carries. -/
def selection : CartesianKind → CartesianSelection
  | pose => .pose
  | screw .twist => .twist
  | screw .acceleration => .acceleration
  | screw .wrench => .wrench

def type : CartesianKind → StateType
  | pose => .cartesianPose
  | screw .twist => .cartesianTwist
  | screw .acceleration => .cartesianAcceleration
  | screw .wrench => .cartesianWrench

end CartesianKind

theorem ScrewKind.fields_selection (kind : ScrewKind) :
    (CartesianKind.screw kind).selection.fields = [.vector kind.linear, .vector kind.angular] := by
  cases kind <;> rfl

structure CartesianProjection (α : Type) (kind : CartesianKind) where
  general : CartesianState α

abbrev CartesianPose (α : Type) := CartesianProjection α .pose
abbrev CartesianScrew (α : Type) (kind : ScrewKind) := CartesianProjection α (.screw kind)
abbrev CartesianTwist (α : Type) := CartesianScrew α .twist
abbrev CartesianAcceleration (α : Type) := CartesianScrew α .acceleration
abbrev CartesianWrench (α : Type) := CartesianScrew α .wrench

/-- The state as its projection of a kind; name, frame, emptiness and timestamp stay. -/
def CartesianState.project {α : Type} [Scalar α] (s : CartesianState α) (kind : CartesianKind) :
    CartesianProjection α kind :=
  ⟨{ s with type := kind.type, values := s.values.restrict kind.selection.fields }⟩

namespace CartesianProjection
variable {α β : Type} {kind : CartesianKind}

instance : StateLike (CartesianProjection α kind) :=
  ⟨fun p => p.general.toState, fun p => some p.general.toSpatialState⟩

def map (p : CartesianProjection α kind) (f : CartesianState α → CartesianState α) :
    CartesianProjection α kind :=
  ⟨f p.general⟩

/-- The edit of the general state, on a projection. -/
def lift (edit : Edit α (CartesianState α) β) : Edit α (CartesianProjection α kind) β :=
  edit.within general fun s _ => ⟨s⟩

def setName (p : CartesianProjection α kind) (name : String) : CartesianProjection α kind :=
  p.map (·.setName name)

def setFrame (p : CartesianProjection α kind) (frame : String) : CartesianProjection α kind :=
  p.map (·.setFrame frame)

def setEmpty (p : CartesianProjection α kind) (empty : Bool) : CartesianProjection α kind :=
  p.map (·.setEmpty empty)

def touch (p : CartesianProjection α kind) (now : Instant) : CartesianProjection α kind :=
  p.map (·.touch now)

/-- The numbers of the fields of the kind. -/
def data (p : CartesianProjection α kind) : Except (StateError α) (List α) := do
  p.general.assertFilled
  return p.general.read kind.selection

variable [Scalar α]

/-- An empty projection. -/
def new (kind : CartesianKind) (name frame : String) (now : Instant) :
    CartesianProjection α kind :=
  ⟨.ofType kind.type name frame now⟩

def setZero (p : CartesianProjection α kind) : CartesianProjection α kind :=
  p.map (·.setZero)

def clear (p : CartesianProjection α kind) : CartesianProjection α kind :=
  p.map (·.clear)

/-- Sets the fields of the kind from as many numbers as they hold. -/
def setData (data : List α) : Edit α (CartesianProjection α kind) Unit :=
  lift (CartesianState.write kind.selection data)

def inverse (p : CartesianProjection α kind) :
    Except (StateError α) (CartesianProjection α kind) :=
  return (← p.general.inverse).project kind

def add (p q : CartesianProjection α kind) :
    Except (StateError α) (CartesianProjection α kind) :=
  return (← p.general.add q.general).project kind

def sub (p q : CartesianProjection α kind) :
    Except (StateError α) (CartesianProjection α kind) :=
  return (← p.general.sub q.general).project kind

def negate (p : CartesianProjection α kind) :
    Except (StateError α) (CartesianProjection α kind) :=
  return (← p.general.negate).project kind

def scale (p : CartesianProjection α kind) (k : α) :
    Except (StateError α) (CartesianProjection α kind) :=
  return (← p.general.scale k).project kind

def divide (p : CartesianProjection α kind) (k : α) :
    Except (StateError α) (CartesianProjection α kind) :=
  return (← p.general.divide k).project kind

def normalize (p : CartesianProjection α kind) (selection : CartesianSelection) :
    Except (StateError α) (CartesianProjection α kind) :=
  return (← p.general.normalize selection).project kind

end CartesianProjection
end Kinematics
