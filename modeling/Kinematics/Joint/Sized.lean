import Kinematics.Joint.Values

/-!
# One number per joint

Every operation on the fields of a joint state keeps one number per joint in each of them.
-/

namespace Kinematics

/-- Every field has one number per joint. -/
def JointValues.Sized {α : Type} (v : JointValues α) (size : Nat) : Prop :=
  ∀ field, (v.get field).length = size

namespace JointValues.Sized
variable {α : Type} {u v : JointValues α} {size : Nat}

theorem zeros [Scalar α] (size : Nat) : (JointValues.zeros size : JointValues α).Sized size := by
  intro field
  simp [JointValues.zeros]

theorem set (h : v.Sized size) (field : JointField) {xs : List α} (hx : xs.length = size) :
    (v.set field xs).Sized size := by
  intro other
  rw [JointValues.set, get_build]
  split
  · exact hx
  · exact h other

theorem mapFields (h : v.Sized size) {f : JointField → List α → List α}
    (hf : ∀ field xs, (f field xs).length = xs.length) : (v.mapFields f).Sized size := by
  intro field
  rw [JointValues.mapFields, get_build, hf]
  exact h field

theorem zipWith (hu : u.Sized size) (hv : v.Sized size) (f : α → α → α) :
    (u.zipWith f v).Sized size := by
  intro field
  rw [JointValues.zipWith, get_build, List.length_zipWith, hu field, hv field, Nat.min_self]

theorem restrict [Scalar α] (h : v.Sized size) (fields : List JointField) :
    (v.restrict fields).Sized size := by
  apply h.mapFields
  intro field xs
  split
  · rfl
  · exact List.length_map ..

theorem scale [Scalar α] (h : v.Sized size) (k : α) (fields : List JointField) :
    (v.scale k fields).Sized size := by
  apply h.mapFields
  intro field xs
  split
  · exact List.length_map ..
  · rfl

/-- Writing as many numbers as the fields hold keeps one number per joint. -/
theorem write (h : v.Sized size) {fields : List JointField} {data : List α}
    (hd : data.length = fields.length * size) :
    (JointValues.write size fields data v).Sized size := by
  induction fields generalizing data v with
  | nil => exact h
  | cons field fields ih =>
      rw [List.length_cons, Nat.add_mul, Nat.one_mul] at hd
      apply ih
      · apply h.set
        rw [List.length_take, hd]
        omega
      · rw [List.length_drop, hd]
        omega

end JointValues.Sized

end Kinematics
