import Kinematics.Shape

/-!
# Ellipses

An ellipse lies in the xy-plane of its center pose, turned about the z axis.
-/

namespace Kinematics

structure Ellipsoid (α : Type) extends Shape α where
  axisX : α
  axisY : α
  /-- The turn about the z axis of the center, in radians. -/
  angle : α

namespace Ellipsoid
variable {α : Type}

instance : StateLike (Ellipsoid α) := ⟨fun e => e.toState, fun _ => none⟩

def setAxes (e : Ellipsoid α) (x y : α) : Ellipsoid α :=
  { e with axisX := x, axisY := y, empty := false }

def setAngle (e : Ellipsoid α) (angle : α) : Ellipsoid α := { e with angle, empty := false }

def mapShape (e : Ellipsoid α) (f : Shape α → Shape α) : Ellipsoid α :=
  { e with toShape := f e.toShape }

def setCenterPosition (e : Ellipsoid α) (position : Vector3 α) : Ellipsoid α :=
  e.mapShape (·.setCenterPosition position)

def setCenterOrientation (e : Ellipsoid α) (q : Quaternion α) : Ellipsoid α :=
  e.mapShape (·.setCenterOrientation q)

def setCenter (pose : CartesianPose α) : Edit α (Ellipsoid α) Unit :=
  (Shape.setCenter pose).within Ellipsoid.toShape fun s e => { e with toShape := s }

/-- Center, angle and axes of a set ellipse. -/
def toList (e : Ellipsoid α) : Except (StateError α) (List α) := do
  e.assertFilled
  return e.centerPosition.toList ++ [e.angle, e.axisX, e.axisY]

/-- Sets center, angle and axes from six numbers. -/
def setData (data : List α) : Edit α (Ellipsoid α) Unit :=
  match data with
  | [x, y, z, angle, axisX, axisY] =>
      modify fun e => ((e.setCenterPosition ⟨x, y, z⟩).setAngle angle).setAxes axisX axisY
  | data => throw (.wrongSize .ellipsoidData 6 data.length)

variable [Scalar α]

/-- An empty circle of radius one. -/
def new (name frame : String) (now : Instant) : Ellipsoid α :=
  { Shape.ofType .ellipsoid name frame now with axisX := 1, axisY := 1, angle := 0 }

/-- A circle of radius one at the origin. -/
def unit (name frame : String) (now : Instant) : Ellipsoid α :=
  { (new name frame now : Ellipsoid α) with empty := false }

/-- The ellipse with the equation `a x² + b xy + c y² + d x + e y + f = 0`. -/
def ofEquation (name : String) (coefficients : List α) (frame : String) (now : Instant) :
    Except (StateError α) (Ellipsoid α) := do
  let [a, b, c, d, e, f] := coefficients
    | throw (.wrongSize .ellipseCoefficients 6 coefficients.length)
  let two : α := Scalar.two
  let discriminant := b * b - two * two * a * c
  if 0 ≤ discriminant then throw (.notAnEllipse discriminant)
  let determinant := two * (a * e * e + c * d * d - b * d * e + discriminant * f)
  let spread := Scalar.sqrt ((a - c) * (a - c) + b * b)
  let major := -Scalar.sqrt (determinant * (a + c + spread)) / discriminant
  let minor := -Scalar.sqrt (determinant * (a + c - spread)) / discriminant
  if !(Scalar.isFinite major && Scalar.isFinite minor && decide (0 < major) && decide (0 < minor))
  then throw .degenerateEllipse
  let center := ⟨(two * c * d - b * e) / discriminant, (two * a * e - b * d) / discriminant, 0⟩
  let angle :=
    if !(b == 0) then Scalar.atan2 (c - a - spread) b
    else if c < a then Scalar.pi / two
    else 0
  return (((new name frame now).setCenterPosition center).setAxes major minor).setAngle angle

/-- The turn within the plane as a pose in the center frame. -/
def rotation (e : Ellipsoid α) (now : Instant) : Except (StateError α) (CartesianPose α) := do
  e.assertFilled
  let center := e.center.general.name
  return .ofParts (center ++ "_rotated") 0 (.aboutAxis ⟨0, 0, 1⟩ e.angle) center now

/-- Poses at equal steps of the parameter along the contour, in the reference frame. -/
def samples (e : Ellipsoid α) (count : Nat) (now : Instant) :
    Except (StateError α) (List (CartesianPose α)) := do
  let rotation ← e.rotation now
  let turned ← e.center.compose rotation now
  (List.range count).mapM fun (i : Nat) => do
    let θ : α := Scalar.two * Scalar.pi * (i : α) / (count : α)
    let point := CartesianPose.ofPosition (e.name ++ "_point" ++ toString i)
      ⟨e.axisX * Scalar.cos θ, e.axisY * Scalar.sin θ, 0⟩ rotation.general.name now
    CartesianPose.compose turned point now

end Ellipsoid
end Kinematics
