import Kinematics.Proofs.Rotation

/-!
# Rates of change

Of the derivative in time, the laws of moving frames use only that it is linear and that it has the
product rule. They hold for every such notion of a rate of change, for vectors component by
component.
-/

namespace Kinematics

/-- A linear notion of the rate of change with the product rule, of numbers that vary over `τ`. -/
structure RateOfChange (τ : Type) where
  /-- The second number is everywhere the rate of change of the first. -/
  Rate (f f' : τ → ℝ) : Prop
  add {f f' g g' : τ → ℝ} : Rate f f' → Rate g g' →
    Rate (fun t => f t + g t) fun t => f' t + g' t
  const_mul {f f' : τ → ℝ} (k : ℝ) : Rate f f' → Rate (fun t => k * f t) fun t => k * f' t
  mul {f f' g g' : τ → ℝ} : Rate f f' → Rate g g' →
    Rate (fun t => f t * g t) fun t => f' t * g t + f t * g' t

namespace RateOfChange

/-- The derivative in time. -/
def inTime : RateOfChange ℝ where
  Rate f f' := ∀ t, HasDerivAt f (f' t) t
  add hf hg t := (hf t).add (hg t)
  const_mul k hf t := (hf t).const_mul k
  mul hf hg t := (hf t).mul (hg t)

variable {τ : Type} (D : RateOfChange τ)

theorem congr {f f' g' : τ → ℝ} (hf : D.Rate f f') (hg' : ∀ t, g' t = f' t) : D.Rate f g' := by
  obtain rfl : g' = f' := funext hg'
  exact hf

theorem sub {f f' g g' : τ → ℝ} (hf : D.Rate f f') (hg : D.Rate g g') :
    D.Rate (fun t => f t - g t) fun t => f' t - g' t := by
  have hneg : D.Rate (fun t => f t + -1 * g t) fun t => f' t + -1 * g' t :=
    D.add hf (D.const_mul (-1) hg)
  simpa only [neg_one_mul, ← sub_eq_add_neg] using hneg

/-- The rate of change of a vector. -/
structure VectorRate (u u' : τ → Vector3 ℝ) : Prop where
  x : D.Rate (fun t => (u t).x) fun t => (u' t).x
  y : D.Rate (fun t => (u t).y) fun t => (u' t).y
  z : D.Rate (fun t => (u t).z) fun t => (u' t).z

namespace VectorRate
variable {D : RateOfChange τ} {u u' v v' : τ → Vector3 ℝ}

theorem congr (h : D.VectorRate u u') (hu : ∀ t, v t = u t) (hu' : ∀ t, v' t = u' t) :
    D.VectorRate v v' := by
  obtain rfl : v = u := funext hu
  obtain rfl : v' = u' := funext hu'
  exact h

theorem add (hu : D.VectorRate u u') (hv : D.VectorRate v v') :
    D.VectorRate (fun t => u t + v t) fun t => u' t + v' t where
  x := D.add hu.x hv.x
  y := D.add hu.y hv.y
  z := D.add hu.z hv.z

theorem scale {f f' : τ → ℝ} (hu : D.VectorRate u u') (hf : D.Rate f f') :
    D.VectorRate (fun t => (u t).scale (f t))
      fun t => (u' t).scale (f t) + (u t).scale (f' t) where
  x := D.mul hu.x hf
  y := D.mul hu.y hf
  z := D.mul hu.z hf

theorem cross (hu : D.VectorRate u u') (hv : D.VectorRate v v') :
    D.VectorRate (fun t => (u t).cross (v t))
      fun t => (u' t).cross (v t) + (u t).cross (v' t) where
  x := D.congr (D.sub (D.mul hu.y hv.z) (D.mul hu.z hv.y)) fun t => by
    simp only [Vector3.cross, Vector3.add_x]
    ring
  y := D.congr (D.sub (D.mul hu.z hv.x) (D.mul hu.x hv.z)) fun t => by
    simp only [Vector3.cross, Vector3.add_y]
    ring
  z := D.congr (D.sub (D.mul hu.x hv.y) (D.mul hu.y hv.x)) fun t => by
    simp only [Vector3.cross, Vector3.add_z]
    ring

/-- Euler's formula for a vector in a turning frame: if the frame turns every fixed vector with the
angular velocity `ω`, a moving one has its own velocity in addition. -/
theorem rotate {q : τ → Quaternion ℝ} {ω : τ → Vector3 ℝ}
    (hq : ∀ x, D.VectorRate (fun t => (q t).rotate x) fun t => (ω t).cross ((q t).rotate x))
    (hu : D.VectorRate u u') :
    D.VectorRate (fun t => (q t).rotate (u t))
      fun t => (ω t).cross ((q t).rotate (u t)) + (q t).rotate (u' t) := by
  have hcolumns := (((hq ⟨1, 0, 0⟩).scale hu.x).add ((hq ⟨0, 1, 0⟩).scale hu.y)).add
    ((hq ⟨0, 0, 1⟩).scale hu.z)
  refine hcolumns.congr (fun t => (q t).rotate_eq_columns (u t)) fun t => ?_
  rw [(q t).rotate_eq_columns (u t), (q t).rotate_eq_columns (u' t)]
  simp only [Vector3.cross_add, Vector3.cross_scale]
  abel

end VectorRate
end RateOfChange
end Kinematics
