import Kinematics.Cartesian.Calculus

/-!
# Operations on Cartesian states

All that changes a Cartesian state or one of its projections in place, and all that yields another
one of the same kind, as data.
-/

namespace Kinematics

namespace CartesianState

inductive Change (α : Type) where
  | setName (name : String)
  | setFrame (frame : String)
  | setEmpty (empty : Bool)
  | touch (now : Instant)
  | setZero
  | clear
  | setVector (field : VectorField) (v : Vector3 α)
  | setOrientation (q : Quaternion α)
  | setOrientationCoefficients (q : Quaternion α)
  | write (selection : CartesianSelection) (data : List α)
  | multiply (gain : DenseMatrix α) (selection : CartesianSelection)
  | clamp (bound : α) (selection : CartesianSelection) (ratio : α)

def Change.edit {α : Type} [Scalar α] : Change α → Edit α (CartesianState α) Unit
  | setName name => modify (·.setName name)
  | setFrame frame => modify (·.setFrame frame)
  | setEmpty empty => modify (·.setEmpty empty)
  | touch now => modify (·.touch now)
  | setZero => modify CartesianState.setZero
  | clear => modify CartesianState.clear
  | setVector field v => modify (·.setVector field v)
  | setOrientation q => modify (·.setOrientation q)
  | setOrientationCoefficients q => CartesianState.setOrientationCoefficients q
  | write selection data => CartesianState.write selection data
  | multiply gain selection => CartesianState.multiply gain selection
  | clamp bound selection ratio => CartesianState.clamp bound selection ratio

inductive Operation (α : Type) where
  | compose (other : CartesianState α) (now : Instant)
  | inverse
  | add (other : CartesianState α)
  | sub (other : CartesianState α)
  | negate
  | scale (k : α)
  | divide (k : α)
  | normalize (selection : CartesianSelection)

namespace Operation
variable {α : Type}

def operands : Operation α → List (CartesianState α)
  | compose other _ | add other | sub other => [other]
  | _ => []

def apply [Scalar α] (s : CartesianState α) :
    Operation α → Except (StateError α) (CartesianState α)
  | compose other now => s.compose other now
  | inverse => s.inverse
  | add other => s.add other
  | sub other => s.sub other
  | negate => s.negate
  | scale k => s.scale k
  | divide k => s.divide k
  | normalize selection => s.normalize selection

end Operation
end CartesianState

namespace CartesianProjection

/-- The last seven are changes of poses or of screws. -/
inductive Change (α : Type) : CartesianKind → Type where
  | setName {kind : CartesianKind} (name : String) : Change α kind
  | setFrame {kind : CartesianKind} (frame : String) : Change α kind
  | setEmpty {kind : CartesianKind} (empty : Bool) : Change α kind
  | touch {kind : CartesianKind} (now : Instant) : Change α kind
  | setZero {kind : CartesianKind} : Change α kind
  | clear {kind : CartesianKind} : Change α kind
  | setData {kind : CartesianKind} (data : List α) : Change α kind
  | setPosition (position : Vector3 α) : Change α .pose
  | setOrientation (q : Quaternion α) : Change α .pose
  | setOrientationCoefficients (q : Quaternion α) : Change α .pose
  | setLinear {kind : ScrewKind} (v : Vector3 α) : Change α (.screw kind)
  | setAngular {kind : ScrewKind} (v : Vector3 α) : Change α (.screw kind)
  | clamp {kind : ScrewKind} (limits : CartesianLimits α) : Change α (.screw kind)
  | clampWith {kind : ScrewKind} (limits : CartesianLimits α) : Change α (.screw kind)

def Change.edit {α : Type} [Scalar α] :
    {kind : CartesianKind} → Change α kind → Edit α (CartesianProjection α kind) Unit
  | _, setName name => modify (·.setName name)
  | _, setFrame frame => modify (·.setFrame frame)
  | _, setEmpty empty => modify (·.setEmpty empty)
  | _, touch now => modify (·.touch now)
  | _, setZero => modify CartesianProjection.setZero
  | _, clear => modify CartesianProjection.clear
  | _, setData data => CartesianProjection.setData data
  | _, setPosition position => modify (CartesianPose.setPosition · position)
  | _, setOrientation q => modify (CartesianPose.setOrientation · q)
  | _, setOrientationCoefficients q => CartesianPose.setOrientationCoefficients q
  | _, setLinear v => modify (CartesianScrew.setLinear · v)
  | _, setAngular v => modify (CartesianScrew.setAngular · v)
  | _, clamp limits => CartesianScrew.clamp limits
  | _, clampWith limits => CartesianScrew.clampWith limits

/-- The last two are operations on screws. -/
inductive Operation (α : Type) : CartesianKind → Type where
  | inverse {kind : CartesianKind} : Operation α kind
  | add {kind : CartesianKind} (other : CartesianProjection α kind) : Operation α kind
  | sub {kind : CartesianKind} (other : CartesianProjection α kind) : Operation α kind
  | negate {kind : CartesianKind} : Operation α kind
  | scale {kind : CartesianKind} (k : α) : Operation α kind
  | divide {kind : CartesianKind} (k : α) : Operation α kind
  | normalize {kind : CartesianKind} (selection : CartesianSelection) : Operation α kind
  | clamped {kind : ScrewKind} (limits : CartesianLimits α) : Operation α (.screw kind)
  | scaleByMatrix {kind : ScrewKind} (gain : Fin 6 → Fin 6 → α) : Operation α (.screw kind)

namespace Operation
variable {α : Type}

def operands {kind : CartesianKind} : Operation α kind → List (CartesianProjection α kind)
  | add other | sub other => [other]
  | _ => []

def apply [Scalar α] : {kind : CartesianKind} → CartesianProjection α kind → Operation α kind →
    Except (StateError α) (CartesianProjection α kind)
  | _, p, inverse => p.inverse
  | _, p, add other => p.add other
  | _, p, sub other => p.sub other
  | _, p, negate => p.negate
  | _, p, scale k => p.scale k
  | _, p, divide k => p.divide k
  | _, p, normalize selection => p.normalize selection
  | _, p, clamped limits => (CartesianScrew.clamp limits).onCopy p
  | _, p, scaleByMatrix gain => CartesianScrew.scaleByMatrix p gain

end Operation
end CartesianProjection
end Kinematics
