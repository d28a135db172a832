import Kinematics.Joint.Algebra
import Kinematics.Joint.Gain
import Kinematics.Limits

/-!
# Projections of joint states

A projection carries one field; the others rest at zero.
-/

namespace Kinematics

def JointField.type : JointField → StateType
  | positions => .jointPositions
  | velocities => .jointVelocities
  | accelerations => .jointAccelerations
  | torques => .jointTorques

structure JointProjection (α : Type) (field : JointField) where
  general : JointState α

abbrev JointPositions (α : Type) := JointProjection α .positions
abbrev JointVelocities (α : Type) := JointProjection α .velocities
abbrev JointAccelerations (α : Type) := JointProjection α .accelerations
abbrev JointTorques (α : Type) := JointProjection α .torques

/-- The state as the projection to a field; names, emptiness and timestamp stay. -/
def JointState.project {α : Type} [Scalar α] (s : JointState α) (field : JointField) :
    JointProjection α field :=
  ⟨{ s with type := field.type, values := s.values.restrict [field] }⟩

namespace JointProjection
variable {α β : Type} {field : JointField}

instance : StateLike (JointProjection α field) := ⟨fun p => p.general.toState, fun _ => none⟩

def map (p : JointProjection α field) (f : JointState α → JointState α) :
    JointProjection α field :=
  ⟨f p.general⟩

/-- The edit of the general state, on a projection. -/
def lift (edit : Edit α (JointState α) β) : Edit α (JointProjection α field) β :=
  edit.within general fun s _ => ⟨s⟩

def setName (p : JointProjection α field) (name : String) : JointProjection α field :=
  p.map (·.setName name)

def setNames (names : List String) : Edit α (JointProjection α field) Unit :=
  lift (JointState.setNames names)

def setEmpty (p : JointProjection α field) (empty : Bool) : JointProjection α field :=
  p.map (·.setEmpty empty)

def touch (p : JointProjection α field) (now : Instant) : JointProjection α field :=
  p.map (·.touch now)

/-- The numbers of the field. -/
def data (p : JointProjection α field) : Except (StateError α) (List α) := do
  p.general.assertFilled
  return p.general.read field.selection

/-- Sets the field from one number per joint. -/
def setData (data : List α) : Edit α (JointProjection α field) Unit :=
  lift (JointState.write field.selection data)

def setValueAt (index : Nat) (x : α) : Edit α (JointProjection α field) Unit :=
  lift (JointState.setValueAt field index x)

def setValue (joint : String) (x : α) : Edit α (JointProjection α field) Unit :=
  lift (JointState.setValue field joint x)

variable [Scalar α]

/-- An empty projection of the named joints. -/
def new (field : JointField) (name : String) (names : List String) (now : Instant) :
    JointProjection α field :=
  ⟨.ofType field.type name names now⟩

/-- An empty projection of unnamed joints. -/
def withSize (field : JointField) (name : String) (joints : Nat) (now : Instant) :
    JointProjection α field :=
  new field name (defaultJointNames joints) now

/-- A filled projection with all numbers zero. -/
def zero (field : JointField) (name : String) (names : List String) (now : Instant) :
    JointProjection α field :=
  (new field name names now).setEmpty false

def setZero (p : JointProjection α field) : JointProjection α field := p.map (·.setZero)

def clear (p : JointProjection α field) : JointProjection α field := p.map (·.clear)

def add (p q : JointProjection α field) : Except (StateError α) (JointProjection α field) :=
  return (← p.general.add q.general).project field

def sub (p q : JointProjection α field) : Except (StateError α) (JointProjection α field) :=
  return (← p.general.sub q.general).project field

def scale (p : JointProjection α field) (k : α) :
    Except (StateError α) (JointProjection α field) :=
  return (← p.general.scale k).project field

def divide (p : JointProjection α field) (k : α) :
    Except (StateError α) (JointProjection α field) :=
  return (← p.general.divide k).project field

def scaleByMatrix (p : JointProjection α field) (gain : DenseMatrix α) :
    Except (StateError α) (JointProjection α field) :=
  (lift (JointState.multiply gain field.selection)).onCopy p

def scaleEach (p : JointProjection α field) (gain : List α) :
    Except (StateError α) (JointProjection α field) :=
  (lift (JointState.multiplyEach gain field.selection)).onCopy p

def clamp (bound ratio : α) : Edit α (JointProjection α field) Unit :=
  lift (JointState.clamp bound field.selection ratio)

def clampEach (bounds ratios : List α) : Edit α (JointProjection α field) Unit :=
  lift (JointState.clampEach bounds field.selection ratios)

/-- Bounds the field by limits that are checked first. -/
def clampWith (limits : JointLimits α) : Edit α (JointProjection α field) Unit := do
  Edit.require limits.validate
  clampEach limits.maxima limits.ratios

end JointProjection
end Kinematics
