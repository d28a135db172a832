import Kinematics.Joint.Algebra
import Kinematics.Proofs.Joint.FlatArray
import Kinematics.Proofs.Scalar

/-!
# Sums, differences and multiples of joint states

What is checked of the operands, and apart from it the numbers of the result.
-/

namespace Kinematics

namespace JointValues
variable {α : Type} {u v : JointValues α} {size : Nat}

theorem get_zipWith (f : α → α → α) (u v : JointValues α) (field : JointField) :
    (u.zipWith f v).get field = List.zipWith f (u.get field) (v.get field) := by
  rw [zipWith, get_build]

theorem read_zipWith (hu : u.Sized size) (hv : v.Sized size) (f : α → α → α)
    (fields : List JointField) :
    (u.zipWith f v).read fields = List.zipWith f (u.read fields) (v.read fields) := by
  induction fields with
  | nil => rfl
  | cons field fields ih =>
    have hread (w : JointValues α) : w.read (field :: fields) = w.get field ++ w.read fields := rfl
    rw [hread, hread, hread, ih, get_zipWith,
      List.zipWith_append ((hu field).trans (hv field).symm)]

/-- States with the same array hold the same numbers. -/
theorem ext_read_all (hu : u.Sized size) (hv : v.Sized size)
    (h : u.read JointSelection.all.fields = v.read JointSelection.all.fields) : u = v := by
  apply ext_get
  intro field
  rw [get_eq_slice hu, get_eq_slice hv, h]

variable [Scalar α]

theorem get_scale (v : JointValues α) (k : α) (fields : List JointField) (field : JointField) :
    (v.scale k fields).get field =
      if field ∈ fields then (v.get field).map (· * k) else v.get field := by
  rw [scale, mapFields, get_build]

theorem read_scale (v : JointValues α) (k : α) (fields : List JointField) :
    (v.scale k fields).read fields = (v.read fields).map (· * k) := by
  rw [read, read, List.map_flatMap]
  apply List.flatMap_congr
  intro field hin
  rw [get_scale, if_pos hin]

end JointValues

namespace JointState
variable {α : Type} {a b c s : JointState α}

/-- Of one kind and with the same joints in the same order. -/
def Alike (a b : JointState α) : Prop := a.type = b.type ∧ a.names = b.names

theorem Alike.refl (a : JointState α) : a.Alike a := ⟨rfl, rfl⟩

theorem Alike.symm (h : a.Alike b) : b.Alike a := ⟨h.1.symm, h.2.symm⟩

theorem Alike.trans (h : a.Alike b) (h' : b.Alike c) : a.Alike c :=
  ⟨h.1.trans h'.1, h.2.trans h'.2⟩

theorem Alike.size_eq (h : a.Alike b) : a.size = b.size := congrArg List.length h.2

theorem isCompatible_iff : a.isCompatible b = true ↔ a.Alike b := by
  simp [isCompatible, State.isCompatible, Alike]

theorem assertCompatible_eq_ok_iff : a.assertCompatible b = .ok () ↔ a.Alike b := by
  rw [← isCompatible_iff, assertCompatible]
  split
  case isTrue h => simp [h]
  case isFalse h => simp [h]

variable [Scalar α]

/-- The numbers of `a` and, each times `sign`, those of `b`; all else is that of `a`. -/
def combined (sign : α) (a b : JointState α) : JointState α :=
  { a with values := a.values.zipWith (fun x y => x + sign * y) b.values }

theorem combine_eq (sign : α) (a b : JointState α) :
    combine sign a b = do
      a.assertFilled
      b.assertFilled
      a.assertCompatible b
      return combined sign a b := rfl

theorem combine_eq_ok (ha : a.empty = false) (hb : b.empty = false) (h : a.Alike b) (sign : α) :
    combine sign a b = .ok (combined sign a b) := by
  rw [combine_eq, State.assertFilled_eq_ok ha, State.assertFilled_eq_ok hb,
    assertCompatible_eq_ok_iff.mpr h]
  rfl

theorem sized_combined (ha : a.Sized) (hb : b.Sized) (h : a.Alike b) (sign : α) :
    (combined sign a b).Sized := by
  have hb : b.values.Sized a.size := h.size_eq ▸ hb
  exact JointValues.Sized.zipWith ha hb _

theorem scaleSelection_eq_ok (hs : s.empty = false) (k : α) (selection : JointSelection) :
    s.scaleSelection k selection =
      .ok { s with values := s.values.scale k selection.fields } := by
  rw [scaleSelection, State.assertFilled_eq_ok hs]
  rfl

end JointState

namespace JointState
variable {a b : JointState ℝ}

theorem read_add (ha : a.Sized) (hb : b.Sized) (h : a.Alike b) (selection : JointSelection) :
    (combined 1 a b).read selection =
      List.zipWith (· + ·) (a.read selection) (b.read selection) := by
  have hb : b.values.Sized a.size := h.size_eq ▸ hb
  have hread := JointValues.read_zipWith ha hb (fun x y => x + 1 * y) selection.fields
  simp only [one_mul] at hread
  simp only [read, combined, one_mul, hread]

/-- A difference is the sum with the negative. -/
theorem combined_neg_one (a b : JointState ℝ) :
    combined (-1) a b =
      combined 1 a { b with values := b.values.scale (-1) JointSelection.all.fields } := by
  have hvalues : a.values.zipWith (fun x y => x + -1 * y) b.values =
      a.values.zipWith (fun x y => x + 1 * y)
        (b.values.scale (-1) JointSelection.all.fields) := by
    apply JointValues.ext_get
    intro field
    have hin : field ∈ JointSelection.all.fields := by
      cases field <;> decide
    rw [JointValues.get_zipWith, JointValues.get_zipWith, JointValues.get_scale, if_pos hin,
      List.zipWith_map_right]
    simp only [neg_mul, one_mul, mul_neg, mul_one]
  rw [combined, combined, hvalues]

theorem sub_eq_bind (ha : a.empty = false) (b : JointState ℝ) :
    a.sub b = b.scale (-1) >>= a.add := by
  cases hb : b.empty with
  | true =>
    have hrefused : (b.assertFilled : Except (StateError ℝ) Unit) = .error (.emptyState b.name) :=
      if_pos hb
    rw [sub, combine_eq, scale, scaleSelection, State.assertFilled_eq_ok ha, hrefused]
    rfl
  | false =>
    rw [scale, scaleSelection_eq_ok hb, sub, combine_eq, combined_neg_one]
    rfl

end JointState
end Kinematics
