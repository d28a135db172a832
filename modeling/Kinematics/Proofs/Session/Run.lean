import Kinematics.Proofs.Parameter.Carries
import Kinematics.Proofs.Session.Value
import Kinematics.Random

/-!
# Sessions

A session is a sequence of operations of the library, each applied to values that earlier ones have
yielded. Values are never lost: an operation that changes a value in place yields the changed one,
also when it is refused, beside the one before it.
-/

namespace Kinematics
variable {α : Type} [Scalar α]

section Step
variable (c : Conduct α) (held : List (Value α))

inductive MakesCartesian : CartesianState α → Prop
  | new (name frame : String) (now : Instant) : MakesCartesian (.new name frame now)
  | identity (name frame : String) (now : Instant) : MakesCartesian (.identity name frame now)
  | random {γ : Type} [RandomGen γ] (g : γ) (name frame : String) (now : Instant) :
      MakesCartesian ((CartesianState.random name frame now : StateM γ _).run g).1
  | general {kind : CartesianKind} {p : CartesianProjection α kind} (hp : .projection p ∈ held) :
      MakesCartesian p.general
  | operate {s t : CartesianState α} (op : CartesianState.Operation α) (hs : .cartesian s ∈ held)
      (hoperands : ∀ o ∈ op.operands, .cartesian o ∈ held) (h : op.apply s = .ok t) :
      MakesCartesian t
  | change {s : CartesianState α} (change : CartesianState.Change α) (hs : .cartesian s ∈ held)
      (hallowed : change.Allowed c) : MakesCartesian (change.edit.applyTo s).2

inductive MakesProjection : {kind : CartesianKind} → CartesianProjection α kind → Prop
  | new (kind : CartesianKind) (name frame : String) (now : Instant) :
      MakesProjection (.new kind name frame now)
  | random {γ : Type} [RandomGen γ] (g : γ) (kind : CartesianKind) (name frame : String)
      (now : Instant) :
      MakesProjection ((CartesianProjection.random kind name frame now : StateM γ _).run g).1
  | project {s : CartesianState α} (kind : CartesianKind) (hs : .cartesian s ∈ held) :
      MakesProjection (s.project kind)
  | operate {kind : CartesianKind} {p q : CartesianProjection α kind}
      (op : CartesianProjection.Operation α kind) (hp : .projection p ∈ held)
      (hoperands : ∀ o ∈ op.operands, .projection o ∈ held) (h : op.apply p = .ok q) :
      MakesProjection q
  | change {kind : CartesianKind} {p : CartesianProjection α kind}
      (change : CartesianProjection.Change α kind) (hp : .projection p ∈ held)
      (hallowed : change.Allowed c) : MakesProjection (change.edit.applyTo p).2
  | identity (name frame : String) (now : Instant) :
      MakesProjection (CartesianPose.identity name frame now)
  | ofPosition (name : String) (position : Vector3 α) (frame : String) (now : Instant) :
      MakesProjection (CartesianPose.ofPosition name position frame now)
  | ofParts (name : String) (position : Vector3 α) (orientation : Quaternion α) (frame : String)
      (now : Instant) (hallowed : c.rotation orientation) :
      MakesProjection (CartesianPose.ofParts name position orientation frame now)
  | ofIsometry (name : String) (isometry : Isometry α) (frame : String) (now : Instant)
      (hallowed : c.rotation isometry.rotation) :
      MakesProjection (CartesianPose.ofIsometry name isometry frame now)
  | zero (kind : ScrewKind) (name frame : String) (now : Instant) :
      MakesProjection (CartesianScrew.zero kind name frame now)
  | ofVectors (kind : ScrewKind) (name : String) (linear angular : Vector3 α) (frame : String)
      (now : Instant) : MakesProjection (CartesianScrew.ofParts kind name linear angular frame now)
  | compose {kind : CartesianKind} {p : CartesianPose α} {q r : CartesianProjection α kind}
      (now : Instant) (hp : .projection p ∈ held) (hq : .projection q ∈ held)
      (h : p.compose q now = .ok r) : MakesProjection r
  | differentiatePose {p : CartesianPose α} {t : CartesianTwist α} (dt : Duration) (now : Instant)
      (hp : .projection p ∈ held) (h : p.differentiate dt now = .ok t) : MakesProjection t
  | integrateTwist {t : CartesianTwist α} {p : CartesianPose α} (dt : Duration) (now : Instant)
      (ht : .projection t ∈ held) (h : t.integrate dt now = .ok p) : MakesProjection p
  | differentiateTwist {t : CartesianTwist α} {a : CartesianAcceleration α} (dt : Duration)
      (now : Instant) (ht : .projection t ∈ held) (h : t.differentiate dt now = .ok a) :
      MakesProjection a
  | integrateAcceleration {a : CartesianAcceleration α} {t : CartesianTwist α} (dt : Duration)
      (now : Instant) (ha : .projection a ∈ held) (h : a.integrate dt now = .ok t) :
      MakesProjection t
  | poseOfTwist {t : CartesianTwist α} {p : CartesianPose α} (now : Instant)
      (ht : .projection t ∈ held) (h : CartesianPose.ofTwist t now = .ok p) : MakesProjection p
  | accelerationOfTwist {t : CartesianTwist α} {a : CartesianAcceleration α} (now : Instant)
      (ht : .projection t ∈ held) (h : CartesianAcceleration.ofTwist t now = .ok a) :
      MakesProjection a
  | rotation {e : Ellipsoid α} {p : CartesianPose α} (now : Instant) (he : .ellipsoid e ∈ held)
      (h : e.rotation now = .ok p) : MakesProjection p

inductive MakesJoint : JointState α → Prop
  | new (name : String) (names : List String) (now : Instant) : MakesJoint (.new name names now)
  | withSize (name : String) (joints : Nat) (now : Instant) :
      MakesJoint (.withSize name joints now)
  | zero (name : String) (names : List String) (now : Instant) : MakesJoint (.zero name names now)
  | random {γ : Type} [RandomGen γ] (g : γ) (name : String) (names : List String)
      (now : Instant) : MakesJoint ((JointState.random name names now : StateM γ _).run g).1
  | general {field : JointField} {p : JointProjection α field} (hp : .jointProjection p ∈ held) :
      MakesJoint p.general
  | operate {s t : JointState α} (op : JointState.Operation α) (hs : .joint s ∈ held)
      (hoperands : ∀ o ∈ op.operands, .joint o ∈ held) (h : op.apply s = .ok t) : MakesJoint t
  | change {s : JointState α} (change : JointState.Change α) (hs : .joint s ∈ held)
      (hallowed : change.Allowed c) : MakesJoint (change.edit.applyTo s).2

inductive MakesJointProjection : {field : JointField} → JointProjection α field → Prop
  | new (field : JointField) (name : String) (names : List String) (now : Instant) :
      MakesJointProjection (.new field name names now)
  | withSize (field : JointField) (name : String) (joints : Nat) (now : Instant) :
      MakesJointProjection (.withSize field name joints now)
  | zero (field : JointField) (name : String) (names : List String) (now : Instant) :
      MakesJointProjection (.zero field name names now)
  | random {γ : Type} [RandomGen γ] (g : γ) (field : JointField) (name : String)
      (names : List String) (now : Instant) :
      MakesJointProjection ((JointProjection.random field name names now : StateM γ _).run g).1
  | project {s : JointState α} (field : JointField) (hs : .joint s ∈ held) :
      MakesJointProjection (s.project field)
  | operate {field : JointField} {p q : JointProjection α field}
      (op : JointProjection.Operation α field) (hp : .jointProjection p ∈ held)
      (hoperands : ∀ o ∈ op.operands, .jointProjection o ∈ held) (h : op.apply p = .ok q) :
      MakesJointProjection q
  | change {field : JointField} {p : JointProjection α field} (change : JointProjection.Change α)
      (hp : .jointProjection p ∈ held) (hallowed : change.Allowed c) :
      MakesJointProjection (change.edit.applyTo p).2
  | differentiatePositions {p : JointPositions α} {v : JointVelocities α} (dt : Duration)
      (now : Instant) (hp : .jointProjection p ∈ held) (h : p.differentiate dt now = .ok v) :
      MakesJointProjection v
  | integrateVelocities {v : JointVelocities α} {p : JointPositions α} (dt : Duration)
      (now : Instant) (hv : .jointProjection v ∈ held) (h : v.integrate dt now = .ok p) :
      MakesJointProjection p
  | differentiateVelocities {v : JointVelocities α} {a : JointAccelerations α} (dt : Duration)
      (now : Instant) (hv : .jointProjection v ∈ held) (h : v.differentiate dt now = .ok a) :
      MakesJointProjection a
  | integrateAccelerations {a : JointAccelerations α} {v : JointVelocities α} (dt : Duration)
      (now : Instant) (ha : .jointProjection a ∈ held) (h : a.integrate dt now = .ok v) :
      MakesJointProjection v

inductive MakesParameter : Parameter α → Prop
  | new (name : String) (type : ParameterType) (now : Instant) :
      MakesParameter (.new name type now)
  | ofValue (name : String) (v : ParameterValue α) (now : Instant) (hv : ∀ u ∈ v.state?, u ∈ held) :
      MakesParameter (.ofValue name v now)
  | change {p : Parameter α} (change : Parameter.Change α) (hp : .parameter p ∈ held)
      (hoperands : ∀ u ∈ change.operands, u ∈ held) : MakesParameter (change.edit.applyTo p).2
  | lookup {m : ParameterMap α} {p : Parameter α} (name : String) (hm : .map m ∈ held)
      (h : m.parameter name = .ok p) : MakesParameter p
  | listed {m : ParameterMap α} {p : Parameter α} (hm : .map m ∈ held) (h : p ∈ m.toList) :
      MakesParameter p
  | removed {m : ParameterMap α} {p : Parameter α} (name : String) (hm : .map m ∈ held)
      (h : ((ParameterMap.remove name).applyTo m).1 = .ok p) : MakesParameter p

inductive MakesMap : ParameterMap α → Prop
  | empty : MakesMap .empty
  | ofList {m : ParameterMap α} (ps : List (Parameter α)) (hps : ∀ p ∈ ps, .parameter p ∈ held)
      (h : ParameterMap.ofList ps = .ok m) : MakesMap m
  | change {m : ParameterMap α} (change : ParameterMap.Change α) (hm : .map m ∈ held)
      (hoperands : ∀ u ∈ change.operands, u ∈ held) : MakesMap (change.edit.applyTo m).2

inductive MakesShape : Shape α → Prop
  | new (name frame : String) (now : Instant) : MakesShape (.new name frame now)
  | ofEllipsoid {e : Ellipsoid α} (he : .ellipsoid e ∈ held) : MakesShape e.toShape
  | change {s : Shape α} (change : Shape.Change α) (hs : .shape s ∈ held)
      (hoperands : ∀ u ∈ change.operands, u ∈ held) (hallowed : change.Allowed c) :
      MakesShape (change.edit.applyTo s).2

inductive MakesEllipsoid : Ellipsoid α → Prop
  | new (name frame : String) (now : Instant) : MakesEllipsoid (.new name frame now)
  | unit (name frame : String) (now : Instant) : MakesEllipsoid (.unit name frame now)
  | ofEquation {e : Ellipsoid α} (name : String) (coefficients : List α) (frame : String)
      (now : Instant) (h : Ellipsoid.ofEquation name coefficients frame now = .ok e) :
      MakesEllipsoid e
  | change {e : Ellipsoid α} (change : Ellipsoid.Change α) (he : .ellipsoid e ∈ held)
      (hoperands : ∀ u ∈ change.operands, u ∈ held) (hallowed : change.Allowed c) :
      MakesEllipsoid (change.edit.applyTo e).2

/-- One operation on held values. -/
inductive Step : Value α → Prop
  | cartesian {s : CartesianState α} (h : MakesCartesian c held s) : Step (.cartesian s)
  | projection {kind : CartesianKind} {p : CartesianProjection α kind}
      (h : MakesProjection c held p) : Step (.projection p)
  | joint {s : JointState α} (h : MakesJoint c held s) : Step (.joint s)
  | jointProjection {field : JointField} {p : JointProjection α field}
      (h : MakesJointProjection c held p) : Step (.jointProjection p)
  | parameter {p : Parameter α} (h : MakesParameter held p) : Step (.parameter p)
  | map {m : ParameterMap α} (h : MakesMap held m) : Step (.map m)
  | shape {s : Shape α} (h : MakesShape c held s) : Step (.shape s)
  | ellipsoid {e : Ellipsoid α} (h : MakesEllipsoid c held e) : Step (.ellipsoid e)
  | value {p : Parameter α} {v : ParameterValue α} {u : Value α} (hp : .parameter p ∈ held)
      (h : p.value = .ok v) (hu : u ∈ v.state?) : Step u
  | get {p : Parameter α} {type : ParameterType} {x : type.Payload α} {u : Value α}
      (hp : .parameter p ∈ held) (h : p.get type = .ok x)
      (hu : u ∈ (ParameterValue.mk type x).state?) : Step u
  | lookup {m : ParameterMap α} {name : String} {type : ParameterType} {x : type.Payload α}
      {u : Value α} (hm : .map m ∈ held) (h : m.value name type = .ok x)
      (hu : u ∈ (ParameterValue.mk type x).state?) : Step u
  | center {s : Shape α} (hs : .shape s ∈ held) : Step (.projection s.center)
  | sample {e : Ellipsoid α} {poses : List (CartesianPose α)} {pose : CartesianPose α}
      (count : Nat) (now : Instant) (he : .ellipsoid e ∈ held)
      (h : e.samples count now = .ok poses) (hpose : pose ∈ poses) : Step (.projection pose)

end Step

/-- The values that a sequence of operations has yielded, the latest first. -/
inductive Session (c : Conduct α) : List (Value α) → Prop
  | start : Session c []
  | step {held : List (Value α)} {v : Value α} (h : Session c held) (hstep : Step c held v) :
      Session c (v :: held)

end Kinematics
