import Kinematics.Proofs.Emptiness
import Kinematics.Proofs.Joint.FlatArray
import Kinematics.Scalar.Binary64
import Mathlib.Data.List.Nodup

/-!
# Joints that nobody has named

The joints of a robot that nobody has named are numbered by their names. The number can be read back
from the name, so that no two joints share one, and the first joint that is found under a name is
the joint of that number. To write by name is therefore to write by index, in a single change and in
any sequence of changes that does not rename the joints.
-/

namespace Kinematics

/-- The name of the joint at an index, unless it is given another. -/
def defaultJointName (index : Nat) : String := "joint" ++ toString index

example : defaultJointName 10 = "joint10" := by decide

/-- The number can be read back from its digits. -/
theorem defaultJointName_injective : Function.Injective defaultJointName := by
  intro i j h
  have hsuffix : toString i = toString j := (String.append_right_inj "joint").mp h
  have hdigits : Nat.toDigits 10 i = Nat.toDigits 10 j := by
    simpa only [Nat.toString_eq_repr, Nat.toList_repr] using congrArg String.toList hsuffix
  calc
    i = Nat.ofDigitChars 10 (Nat.toDigits 10 i) 0 := Nat.ofDigitChars_ten_toDigits.symm
    _ = Nat.ofDigitChars 10 (Nat.toDigits 10 j) 0 := by rw [hdigits]
    _ = j := Nat.ofDigitChars_ten_toDigits

theorem nodup_defaultJointNames (joints : Nat) : (defaultJointNames joints).Nodup :=
  List.nodup_range.map defaultJointName_injective

theorem length_defaultJointNames (joints : Nat) : (defaultJointNames joints).length = joints := by
  rw [defaultJointNames, List.length_map, List.length_range]

theorem mem_defaultJointNames_iff {joints index : Nat} :
    defaultJointName index ∈ defaultJointNames joints ↔ index < joints := by
  rw [← List.mem_range]
  exact List.mem_map_of_injective defaultJointName_injective

theorem getElem?_defaultJointNames_iff {joints i index : Nat} :
    (defaultJointNames joints)[i]? = some (defaultJointName index) ↔ i < joints ∧ i = index := by
  change ((List.range joints).map defaultJointName)[i]? = some (defaultJointName index) ↔ _
  simp [List.getElem?_eq_some_iff, defaultJointName_injective.eq_iff]

section Run
variable {α σ κ : Type} {edit : κ → Edit α σ Unit} {P : σ → Prop} {changes : List κ} {s : σ}

theorem runChanges_keeps (hkeeps : ∀ change ∈ changes, (edit change).Keeps P) (hs : P s) :
    P (runChanges edit changes s) := by
  induction changes generalizing s with
  | nil => exact hs
  | cons change changes ih =>
    obtain ⟨hfirst, hrest⟩ := List.forall_mem_cons.mp hkeeps
    exact ih hrest (hfirst s hs)

/-- Changes that others can stand in for, one by one, can be exchanged for these in a sequence. -/
theorem runChanges_map {f : κ → κ} (hkeeps : ∀ change ∈ changes, (edit change).Keeps P)
    (hsame : ∀ change s, P s → ((edit (f change)).applyTo s).2 = ((edit change).applyTo s).2)
    (hs : P s) : runChanges edit (changes.map f) s = runChanges edit changes s := by
  induction changes generalizing s with
  | nil => rfl
  | cons change changes ih =>
    obtain ⟨hfirst, hrest⟩ := List.forall_mem_cons.mp hkeeps
    rw [List.map_cons, runChanges, List.foldl_cons, hsame change s hs]
    exact ih hrest (hfirst s hs)

end Run

namespace JointState
variable {α : Type} {s t : JointState α} {joints : Nat}

/-- The joints can be told apart by their names, and each is found under its number alone. -/
structure Numbered (joints : Nat) (s : JointState α) : Prop where
  size : s.size = joints
  distinct : s.names.Nodup
  found {index : Nat} (h : index < joints) : s.jointIndex (defaultJointName index) = .ok index
  missing {index : Nat} (h : joints ≤ index) :
    s.jointIndex (defaultJointName index) = .error (.jointNotFound (defaultJointName index))

theorem numbered_of_names (h : s.names = defaultJointNames joints) : s.Numbered joints where
  size := by rw [JointState.size, h, length_defaultJointNames]
  distinct := h ▸ nodup_defaultJointNames joints
  found hindex := by
    rw [jointIndex_eq_ok_iff, h]
    refine ⟨getElem?_defaultJointNames_iff.mpr ⟨hindex, rfl⟩, fun i hi => ?_⟩
    exact (getElem?_defaultJointNames_iff.mp hi).2.ge
  missing hindex := by
    apply jointIndex_of_notMem
    rw [h, mem_defaultJointNames_iff]
    exact Nat.not_lt.mpr hindex

namespace Numbered
variable {index : Nat} (h : s.Numbered joints)
include h

/-- Nothing but the names matters. -/
theorem of_names_eq (ht : t.names = s.names) : t.Numbered joints where
  size := (congrArg List.length ht).trans h.size
  distinct := ht ▸ h.distinct
  found hindex := by
    rw [← h.found hindex, jointIndex, jointIndex, ht]
  missing hindex := by
    rw [← h.missing hindex, jointIndex, jointIndex, ht]

theorem setValue_of_lt (hindex : index < joints) (field : JointField) (x : α) :
    (setValue field (defaultJointName index) x).applyTo s =
      (setValueAt field index x).applyTo s := by
  rw [setValue_applyTo, h.found hindex]

theorem setValue_of_le (hindex : joints ≤ index) (field : JointField) (x : α) :
    (setValue field (defaultJointName index) x).applyTo s =
      (.error (.jointNotFound (defaultJointName index)), s) := by
  rw [setValue_applyTo, h.missing hindex]

/-- Refused or not, the two ways to write a number leave the same behind. -/
theorem setValue_leaves (field : JointField) (index : Nat) (x : α) :
    ((setValue field (defaultJointName index) x).applyTo s).2 =
      ((setValueAt field index x).applyTo s).2 := by
  obtain hlt | hle := Nat.lt_or_ge index joints
  · rw [h.setValue_of_lt hlt]
  · rw [h.setValue_of_le hle, setValueAt_of_le field (h.size.trans_le hle)]

end Numbered

namespace Change

/-- The change does not rename the joints. -/
def KeepsNames : Change α → Prop
  | setNames _ => False
  | _ => True

/-- The change that writes by name where the given one writes by index. -/
def byName : Change α → Change α
  | setValueAt field index x => setValue field (defaultJointName index) x
  | change => change

variable [Scalar α]

theorem Leaves.names_eq {change : Change α} (ht : change.Leaves s t) (h : change.KeepsNames) :
    t.names = s.names := by
  cases change with
  | setNames names => exact h.elim
  | setName | setEmpty | touch | setZero | clear =>
    cases ht
    rfl
  | setValueAt | setValue | write | clamp | clampEach | multiply | multiplyEach =>
    obtain ⟨_, -, rfl⟩ := ht
    rfl

theorem keeps_numbered {change : Change α} (h : change.KeepsNames) :
    change.edit.Keeps (Numbered joints) :=
  .of_settles fun s hs => (change.settles s).mono fun _ ht => hs.of_names_eq (ht.names_eq h)

theorem byName_leaves (change : Change α) (hs : s.Numbered joints) :
    (change.byName.edit.applyTo s).2 = (change.edit.applyTo s).2 := by
  cases change with
  | setValueAt field index x => exact hs.setValue_leaves field index x
  | _ => rfl

end Change
end JointState

namespace JointProjection
variable {α : Type} {field : JointField} {p : JointProjection α field} {joints : Nat}

namespace Change

/-- The change that writes by name where the given one writes by index. -/
def byName : Change α → Change α
  | setValueAt index x => setValue (defaultJointName index) x
  | change => change

variable [Scalar α]

theorem keeps_numbered {change : Change α} (h : (change.general field).KeepsNames) :
    (change.edit : Edit α (JointProjection α field) Unit).Keeps (·.general.Numbered joints) :=
  .of_settles fun p hp => (change.settles p).mono fun _ hq => hp.of_names_eq (hq.names_eq h)

theorem byName_leaves (change : Change α) (hp : p.general.Numbered joints) :
    (change.byName.edit.applyTo p).2 = (change.edit.applyTo p).2 := by
  cases change with
  | setValueAt index x =>
    exact congrArg JointProjection.mk (hp.setValue_leaves field index x)
  | _ => rfl

end Change
end JointProjection

open JointState (setValue setValueAt) in
/-- The joints that nobody has named have distinct names; each is found under its number, and none
is found under a number that is too high. To write to a joint by name is to write to it by index, in
the state and in its projections. So in any sequence of changes that does not rename the joints,
refused ones included, all that is written by index can be written by name. -/
theorem unnamed_joints_answer_to_numbers {α : Type} [Scalar α] (robot : String) (joints : Nat)
    (now : Instant) :
    let s : JointState α := .withSize robot joints now
    let p (field : JointField) : JointProjection α field := .withSize field robot joints now
    s.Numbered joints ∧ (∀ field, (p field).general.Numbered joints) ∧
    (∀ (field : JointField) (index : Nat) (x : α), index < joints →
      (∃ t, (setValue field (defaultJointName index) x).applyTo s = (.ok (), t) ∧
        (setValueAt field index x).applyTo s = (.ok (), t)) ∧
      ∃ q, (JointProjection.setValue (defaultJointName index) x).applyTo (p field) = (.ok (), q) ∧
        (JointProjection.setValueAt index x).applyTo (p field) = (.ok (), q)) ∧
    (∀ changes : List (JointState.Change α), (∀ change ∈ changes, change.KeepsNames) →
      (runChanges JointState.Change.edit changes s).Numbered joints ∧
      runChanges JointState.Change.edit (changes.map .byName) s =
        runChanges JointState.Change.edit changes s) ∧
    ∀ (field : JointField) (changes : List (JointProjection.Change α)),
      (∀ change ∈ changes, (change.general field).KeepsNames) →
      (runChanges JointProjection.Change.edit changes (p field)).general.Numbered joints ∧
      runChanges JointProjection.Change.edit (changes.map .byName) (p field) =
        runChanges JointProjection.Change.edit changes (p field) := by
  intro s p
  have hs : s.Numbered joints := JointState.numbered_of_names rfl
  have hp (field : JointField) : (p field).general.Numbered joints :=
    JointState.numbered_of_names rfl
  refine ⟨hs, hp, fun field index x hindex => ⟨?_, ?_⟩, fun changes hkeeps => ?_,
    fun field changes hkeeps => ?_⟩
  · have hwrite := JointState.setValueAt_of_lt field (hindex.trans_eq hs.size.symm) x
    exact ⟨_, (hs.setValue_of_lt hindex field x).trans hwrite, hwrite⟩
  · have hwrite := JointState.setValueAt_of_lt field (hindex.trans_eq (hp field).size.symm) x
    refine ⟨_, ?_, JointProjection.lift_eq hwrite⟩
    exact JointProjection.lift_eq (((hp field).setValue_of_lt hindex field x).trans hwrite)
  · have hsteps : ∀ change ∈ changes, change.edit.Keeps (JointState.Numbered joints) :=
      fun change hin => JointState.Change.keeps_numbered (hkeeps change hin)
    exact ⟨runChanges_keeps hsteps hs,
      runChanges_map hsteps (fun change _ => JointState.Change.byName_leaves change) hs⟩
  · have hsteps : ∀ change ∈ changes,
        (change.edit : Edit α (JointProjection α field) Unit).Keeps (·.general.Numbered joints) :=
      fun change hin => JointProjection.Change.keeps_numbered (hkeeps change hin)
    exact ⟨runChanges_keeps hsteps (hp field),
      runChanges_map hsteps (fun change _ => JointProjection.Change.byName_leaves change)
        (hp field)⟩

open JointState (setValue setValueAt) in
/-- Of twelve joints the last is not taken for the second. -/
theorem unnamed_joints_answer_to_numbers_twelve :
    let arm : JointState Float := .withSize "arm" 12 ⟨0⟩
    let changes : List (JointState.Change Float) :=
      [.setValueAt .torques 12 1, .setName "leg", .setValueAt .torques 11 0.5]
    arm.names.Nodup ∧ arm.jointIndex "joint1" = .ok 1 ∧ arm.jointIndex "joint11" = .ok 11 ∧
      arm.jointIndex "joint12" = .error (.jointNotFound "joint12") ∧
      (∃ t, (setValue .torques "joint11" 0.5).applyTo arm = (.ok (), t) ∧
        (setValueAt .torques 11 0.5).applyTo arm = (.ok (), t)) ∧
      runChanges JointState.Change.edit
          [.setValue .torques "joint12" 1, .setName "leg", .setValue .torques "joint11" 0.5] arm =
        runChanges JointState.Change.edit changes arm := by
  intro arm changes
  have h1 : defaultJointName 1 = "joint1" := by decide
  have h11 : defaultJointName 11 = "joint11" := by decide
  have h12 : defaultJointName 12 = "joint12" := by decide
  obtain ⟨harm, -, hwrite, hrun, -⟩ := @unnamed_joints_answer_to_numbers Float _ "arm" 12 ⟨0⟩
  rw [← h1, ← h11, ← h12]
  refine ⟨harm.distinct, harm.found (by decide), harm.found (by decide), harm.missing (by decide),
    (hwrite .torques 11 0.5 (by decide)).1, (hrun changes ?_).2⟩
  simp [changes, JointState.Change.KeepsNames]

end Kinematics
