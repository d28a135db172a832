import Kinematics.Vector3

/-!
# Quaternions

A unit quaternion stands for a rotation, and so does its negation.
-/

namespace Kinematics

@[ext] structure Quaternion (α : Type) where
  w : α
  x : α
  y : α
  z : α

namespace Quaternion
variable {α : Type} [Scalar α]

/-- The identity rotation. -/
def identity : Quaternion α := ⟨1, 0, 0, 0⟩

def vectorPart (q : Quaternion α) : Vector3 α := ⟨q.x, q.y, q.z⟩

/-- The quaternion with scalar part `w` and vector part `v`. -/
def ofParts (w : α) (v : Vector3 α) : Quaternion α := ⟨w, v.x, v.y, v.z⟩

instance : Neg (Quaternion α) := ⟨fun q => ⟨-q.w, -q.x, -q.y, -q.z⟩⟩

/-- Hamilton's product: the rotation by `q` followed by the rotation by `p`. -/
instance : Mul (Quaternion α) := ⟨fun p q =>
  ⟨p.w * q.w - p.x * q.x - p.y * q.y - p.z * q.z,
    p.w * q.x + p.x * q.w + p.y * q.z - p.z * q.y,
    p.w * q.y - p.x * q.z + p.y * q.w + p.z * q.x,
    p.w * q.z + p.x * q.y - p.y * q.x + p.z * q.w⟩⟩

/-- The inverse of a unit quaternion. -/
def conjugate (q : Quaternion α) : Quaternion α := ⟨q.w, -q.x, -q.y, -q.z⟩

/-- The inner product of the coefficients, summed in two halves. -/
def dot (p q : Quaternion α) : α := p.x * q.x + p.z * q.z + (p.y * q.y + p.w * q.w)

def normSq (q : Quaternion α) : α := q.dot q

def norm (q : Quaternion α) : α := Scalar.sqrt q.normSq

def normalize (q : Quaternion α) : Quaternion α :=
  ⟨q.w / q.norm, q.x / q.norm, q.y / q.norm, q.z / q.norm⟩

/-- The normalized quaternion, unless its norm is too small to divide by. -/
def normalize? (q : Quaternion α) : Option (Quaternion α) :=
  if Scalar.squaredNormEpsilon < q.normSq then some q.normalize else none

/-- Rotates `v`; correct for unit quaternions. -/
def rotate (q : Quaternion α) (v : Vector3 α) : Vector3 α :=
  let t := (q.vectorPart.cross v).scale Scalar.two
  t.scale q.w + q.vectorPart.cross t + v

/-- Of `q` and `-q` the one in the hemisphere of `reference`. -/
def alignedWith (q reference : Quaternion α) : Quaternion α :=
  if reference.dot q < 0 then -q else q

/-- The rotation by `angle` about a unit axis. -/
def aboutAxis (axis : Vector3 α) (angle : α) : Quaternion α :=
  ofParts (Scalar.cos (angle / Scalar.two)) (axis.scale (Scalar.sin (angle / Scalar.two)))

def toList (q : Quaternion α) : List α := [q.w, q.x, q.y, q.z]

@[simp] theorem neg_w (q : Quaternion α) : (-q).w = -q.w := rfl
@[simp] theorem neg_x (q : Quaternion α) : (-q).x = -q.x := rfl
@[simp] theorem neg_y (q : Quaternion α) : (-q).y = -q.y := rfl
@[simp] theorem neg_z (q : Quaternion α) : (-q).z = -q.z := rfl
@[simp] theorem mul_w (p q : Quaternion α) :
    (p * q).w = p.w * q.w - p.x * q.x - p.y * q.y - p.z * q.z := rfl
@[simp] theorem mul_x (p q : Quaternion α) :
    (p * q).x = p.w * q.x + p.x * q.w + p.y * q.z - p.z * q.y := rfl
@[simp] theorem mul_y (p q : Quaternion α) :
    (p * q).y = p.w * q.y - p.x * q.z + p.y * q.w + p.z * q.x := rfl
@[simp] theorem mul_z (p q : Quaternion α) :
    (p * q).z = p.w * q.z + p.x * q.y - p.y * q.x + p.z * q.w := rfl

end Quaternion

/-- A rigid motion: the rotation is applied before the translation. -/
structure Isometry (α : Type) where
  translation : Vector3 α
  rotation : Quaternion α

end Kinematics
