import Kinematics.Proofs.Cartesian.Filled
import Kinematics.Proofs.Joint.Filled

/-!
# How states become empty and filled

In a sequence of changes in place, some of which may be refused, a filled state becomes empty only
where it is marked empty or cleared, and an empty one becomes filled only where a field is written
or where it is marked filled.
-/

namespace Kinematics

section Law
variable {α σ κ : Type} {edit : κ → Edit α σ Unit}

/-- What a sequence of changes leaves behind, the refused ones included. -/
def runChanges (edit : κ → Edit α σ Unit) (changes : List κ) (s : σ) : σ :=
  changes.foldl (fun s change => ((edit change).applyTo s).2) s

/-- A property that a sequence of changes loses is lost at one that succeeds. -/
theorem exists_change_of_not {R : κ → σ → σ → Prop}
    (hsettles : ∀ s change, (edit change).Settles s (R change s)) {P : σ → Prop}
    {changes : List κ} {s : σ} (hs : P s) (h : ¬P (runChanges edit changes s)) :
    ∃ earlier change later t, changes = earlier ++ change :: later ∧
      P (runChanges edit earlier s) ∧ ¬P t ∧ R change (runChanges edit earlier s) t ∧
      (edit change).applyTo (runChanges edit earlier s) = (.ok (), t) := by
  induction changes generalizing s with
  | nil => exact absurd hs h
  | cons change changes ih =>
    by_cases hafter : P ((edit change).applyTo s).2
    · obtain ⟨earlier, turning, later, t, rfl, hturn⟩ := ih hafter h
      exact ⟨change :: earlier, turning, later, t, rfl, hturn⟩
    · obtain ⟨e, he⟩ | ⟨t, ht, hR⟩ := hsettles s change
      · rw [he] at hafter
        exact absurd hs hafter
      · rw [ht] at hafter
        exact ⟨[], change, changes, t, rfl, hs, hafter, hR, ht⟩

/-- Where a sequence of changes turns a filled value into an empty one, or an empty one into a
filled one. A sequence of one change says what that change does. -/
structure EmptinessLaw (empty : σ → Bool) (edit : κ → Edit α σ Unit) (Empties Fills : κ → Prop) :
    Prop where
  emptied {changes : List κ} {s : σ} (hs : empty s = false)
    (h : empty (runChanges edit changes s) = true) :
    ∃ earlier change later, changes = earlier ++ change :: later ∧
      empty (runChanges edit earlier s) = false ∧ Empties change
  filled {changes : List κ} {s : σ} (hs : empty s = true)
    (h : empty (runChanges edit changes s) = false) :
    ∃ earlier change later, changes = earlier ++ change :: later ∧
      empty (runChanges edit earlier s) = true ∧ Fills change ∧
      ((edit change).applyTo (runChanges edit earlier s)).1 = .ok ()

/-- What a change may do to the emptiness of a value. -/
def Marks (empty : σ → Bool) (Empties Fills : κ → Prop) (change : κ) (s t : σ) : Prop :=
  empty t = empty s ∨ Empties change ∧ empty t = true ∨ Fills change ∧ empty t = false

namespace Marks
variable {empty : σ → Bool} {Empties Fills : κ → Prop} {change : κ} {s t : σ}

theorem of_filled (h : empty s = false ∧ empty t = false) : Marks empty Empties Fills change s t :=
  .inl (h.2.trans h.1.symm)

theorem of_fills (hfills : Fills change) (ht : empty t = false) :
    Marks empty Empties Fills change s t :=
  .inr (.inr ⟨hfills, ht⟩)

theorem of_empties (hempties : Empties change) (ht : empty t = true) :
    Marks empty Empties Fills change s t :=
  .inr (.inl ⟨hempties, ht⟩)

/-- The value is marked as the caller says. -/
theorem of_marked {mark : Bool} (hempties : mark = true → Empties change)
    (hfills : mark = false → Fills change) (ht : empty t = mark) :
    Marks empty Empties Fills change s t := by
  cases mark with
  | true => exact of_empties (hempties rfl) ht
  | false => exact of_fills (hfills rfl) ht

end Marks

theorem EmptinessLaw.of_settles {empty : σ → Bool} {Empties Fills : κ → Prop}
    (h : ∀ s change, (edit change).Settles s (Marks empty Empties Fills change s)) :
    EmptinessLaw empty edit Empties Fills where
  emptied {changes s} hs hempty := by
    have hturned : ¬empty (runChanges edit changes s) = false := by simp [hempty]
    obtain ⟨earlier, change, later, t, rfl, hbefore, hafter, hmarks, -⟩ :=
      exists_change_of_not h (P := fun s => empty s = false) hs hturned
    refine ⟨earlier, change, later, rfl, hbefore, ?_⟩
    obtain hsame | ⟨hempties, -⟩ | ⟨-, hfilled⟩ := hmarks
    · exact absurd (hsame.trans hbefore) hafter
    · exact hempties
    · exact absurd hfilled hafter
  filled {changes s} hs hfilled := by
    have hturned : ¬empty (runChanges edit changes s) = true := by simp [hfilled]
    obtain ⟨earlier, change, later, t, rfl, hbefore, hafter, hmarks, happly⟩ :=
      exists_change_of_not h (P := fun s => empty s = true) hs hturned
    refine ⟨earlier, change, later, rfl, hbefore, ?_, congrArg Prod.fst happly⟩
    obtain hsame | ⟨-, hempty⟩ | ⟨hfills, -⟩ := hmarks
    · exact absurd (hsame.trans hbefore) hafter
    · exact absurd hempty hafter
    · exact hfills

end Law

namespace CartesianState.Change
variable {α : Type}

def Empties : Change α → Prop
  | setEmpty empty => empty = true
  | clear => True
  | _ => False

def Fills : Change α → Prop
  | setEmpty empty => empty = false
  | setVector .. | setOrientation _ | setOrientationCoefficients _ | write .. => True
  | _ => False

variable [Scalar α]

theorem settles_marks (s : CartesianState α) (change : Change α) :
    change.edit.Settles s (Marks (·.empty) Empties Fills change s) := by
  cases change with
  | setName | setFrame | touch | setZero => exact .modify (.inl rfl)
  | setEmpty empty => exact .modify (.of_marked id id rfl)
  | clear => exact .modify (.of_empties trivial rfl)
  | setVector | setOrientation => exact .modify (.of_fills trivial rfl)
  | setOrientationCoefficients q =>
    refine (setOrientationCoefficients_settles q).mono ?_
    rintro _ ⟨u, -, rfl⟩
    exact .of_fills trivial rfl
  | write selection data =>
    exact (write_settles selection data).mono fun _ ht => .of_fills trivial ht.filled
  | multiply gain selection =>
    exact (multiply_settles_filled s gain selection).mono fun _ => .of_filled
  | clamp bound selection ratio =>
    exact (clamp_settles_filled s bound selection ratio).mono fun _ => .of_filled

theorem emptinessLaw :
    EmptinessLaw (·.empty) (edit : Change α → Edit α (CartesianState α) Unit) Empties Fills :=
  .of_settles settles_marks

end CartesianState.Change

namespace CartesianProjection.Change
variable {α : Type} {kind : CartesianKind}

def Empties : Change α kind → Prop
  | setEmpty empty => empty = true
  | clear => True
  | _ => False

def Fills : Change α kind → Prop
  | setEmpty empty => empty = false
  | setData _ | setPosition _ | setOrientation _ | setOrientationCoefficients _ | setLinear _
  | setAngular _ => True
  | _ => False

variable [Scalar α]

theorem settles_marks (p : CartesianProjection α kind) (change : Change α kind) :
    change.edit.Settles p (Marks (·.general.empty) Empties Fills change p) := by
  cases change with
  | setName | setFrame | touch | setZero => exact .modify (.inl rfl)
  | setEmpty empty => exact .modify (.of_marked id id rfl)
  | clear => exact .modify (.of_empties trivial rfl)
  | setData data =>
    exact (settles p (.setData data)).mono fun _ hq => .of_fills trivial hq.filled
  | setPosition | setOrientation | setLinear | setAngular =>
    exact .modify (.of_fills trivial rfl)
  | setOrientationCoefficients w =>
    refine (settles p (.setOrientationCoefficients w)).mono ?_
    rintro _ ⟨u, -, rfl⟩
    exact .of_fills trivial rfl
  | clamp limits =>
    exact (CartesianScrew.clamp_settles_filled p limits).mono fun _ => .of_filled
  | clampWith limits =>
    exact (CartesianScrew.clampWith_settles_filled p limits).mono fun _ => .of_filled

theorem emptinessLaw (kind : CartesianKind) :
    EmptinessLaw (·.general.empty)
      (edit : Change α kind → Edit α (CartesianProjection α kind) Unit) Empties Fills :=
  .of_settles settles_marks

end CartesianProjection.Change

namespace JointState.Change
variable {α : Type}

def Empties : Change α → Prop
  | setEmpty empty => empty = true
  | clear => True
  | _ => False

def Fills : Change α → Prop
  | setEmpty empty => empty = false
  | setValueAt .. | setValue .. | write .. => True
  | _ => False

variable [Scalar α]

theorem settles_marks (s : JointState α) (change : Change α) :
    change.edit.Settles s (Marks (·.empty) Empties Fills change s) := by
  cases change with
  | setName | touch | setZero => exact .modify (.inl rfl)
  | setNames names =>
    refine (setNames_settles names).mono ?_
    rintro _ ⟨-, rfl⟩
    exact .inl rfl
  | setEmpty empty => exact .modify (.of_marked id id rfl)
  | clear => exact .modify (.of_empties trivial rfl)
  | setValueAt field index x =>
    exact (setValueAt_settles field index x).mono fun _ ht => .of_fills trivial ht.filled
  | setValue field joint x =>
    exact (setValue_settles field joint x).mono fun _ ht => .of_fills trivial ht.filled
  | write selection data =>
    exact (write_settles selection data).mono fun _ ht => .of_fills trivial ht.filled
  | clamp bound selection ratio =>
    exact (clamp_settles_filled s bound selection ratio).mono fun _ => .of_filled
  | clampEach bounds selection ratios =>
    exact (clampEach_settles_filled s bounds selection ratios).mono fun _ => .of_filled
  | multiply gain selection =>
    exact (multiply_settles_filled s gain selection).mono fun _ => .of_filled
  | multiplyEach gain selection =>
    exact (multiplyEach_settles_filled s gain selection).mono fun _ => .of_filled

theorem emptinessLaw :
    EmptinessLaw (·.empty) (edit : Change α → Edit α (JointState α) Unit) Empties Fills :=
  .of_settles settles_marks

end JointState.Change

namespace JointProjection.Change
variable {α : Type} {field : JointField}

def Empties : Change α → Prop
  | setEmpty empty => empty = true
  | clear => True
  | _ => False

def Fills : Change α → Prop
  | setEmpty empty => empty = false
  | setData _ | setValueAt .. | setValue .. => True
  | _ => False

variable [Scalar α]

theorem settles_marks (p : JointProjection α field) (change : Change α) :
    change.edit.Settles p (Marks (·.general.empty) Empties Fills change p) := by
  cases change with
  | setName | touch | setZero => exact .modify (.inl rfl)
  | setNames names =>
    refine (settles p (.setNames names)).mono ?_
    rintro q ⟨-, hq⟩
    exact .inl (congrArg (·.empty) hq)
  | setEmpty empty => exact .modify (.of_marked id id rfl)
  | clear => exact .modify (.of_empties trivial rfl)
  | setData data =>
    exact (settles p (.setData data)).mono fun _ hq => .of_fills trivial hq.filled
  | setValueAt index x =>
    exact (settles p (.setValueAt index x)).mono fun _ hq => .of_fills trivial hq.filled
  | setValue joint x =>
    exact (settles p (.setValue joint x)).mono fun _ hq => .of_fills trivial hq.filled
  | clamp bound ratio =>
    exact (clamp_settles_filled p bound ratio).mono fun _ => .of_filled
  | clampEach bounds ratios =>
    exact (clampEach_settles_filled p bounds ratios).mono fun _ => .of_filled
  | clampWith limits =>
    exact (clampWith_settles_filled p limits).mono fun _ => .of_filled

theorem emptinessLaw (field : JointField) :
    EmptinessLaw (·.general.empty)
      (edit : Change α → Edit α (JointProjection α field) Unit) Empties Fills :=
  .of_settles settles_marks

end JointProjection.Change
end Kinematics
