import Kinematics.Edit
import Kinematics.State

/-!
# Laws of edits

What the steps of an edit return and leave behind, and the properties of a value that an edit
keeps whether it succeeds or is refused.
-/

namespace Kinematics

/-- A computation that returns has returned at its first step. -/
theorem exists_of_bind_eq_ok {ε β γ : Type} {first : Except ε β} {next : β → Except ε γ} {r : γ}
    (h : (first >>= next) = .ok r) : ∃ x, first = .ok x ∧ next x = .ok r := by
  cases first with
  | error e => cases h
  | ok x => exact ⟨x, rfl, h⟩

/-- A computation that returns has passed its guards. -/
theorem of_guard_eq_ok {ε β γ : Type} {c : Prop} [Decidable c] {e : ε} {next : β → Except ε γ}
    {rest : Except ε γ} {r : γ} (h : (if c then throw e >>= next else rest) = .ok r) :
    ¬c ∧ rest = .ok r := by
  split at h
  case isTrue => cases h
  case isFalse hc => exact ⟨hc, h⟩

/-- Every element of a list that a computation has mapped to is its result for some element. -/
theorem exists_of_mapM_eq_ok {ε β γ : Type} {f : β → Except ε γ} {xs : List β} {ys : List γ}
    (h : xs.mapM f = .ok ys) {y : γ} (hy : y ∈ ys) : ∃ x ∈ xs, f x = .ok y := by
  induction xs generalizing ys with
  | nil =>
    cases h
    exact absurd hy List.not_mem_nil
  | cons x xs ih =>
    rw [List.mapM_cons] at h
    obtain ⟨first, hfirst, h⟩ := exists_of_bind_eq_ok h
    obtain ⟨rest, hrest, h⟩ := exists_of_bind_eq_ok h
    cases h
    obtain rfl | hy := List.mem_cons.mp hy
    · exact ⟨x, List.mem_cons_self, hfirst⟩
    · obtain ⟨x', hx', hy⟩ := ih hrest hy
      exact ⟨x', List.mem_cons_of_mem _ hx', hy⟩

/-- What every success comes with is missing, so there is none. -/
theorem exists_eq_error_of_not {ε β : Type} {outcome : Except ε β} {c : Prop}
    (h : ∀ x, outcome = .ok x → c) (hc : ¬c) : ∃ e, outcome = .error e := by
  cases outcome with
  | error e => exact ⟨e, rfl⟩
  | ok x => exact absurd (h x rfl) hc

namespace Edit
variable {α σ τ β γ : Type}

section Steps

@[simp] theorem applyTo_pure (x : β) (s : σ) :
    (pure x : Edit α σ β).applyTo s = (.ok x, s) := rfl

@[simp] theorem applyTo_throw (e : StateError α) (s : σ) :
    (throw e : Edit α σ β).applyTo s = (.error e, s) := rfl

@[simp] theorem applyTo_get (s : σ) : (get : Edit α σ σ).applyTo s = (.ok s, s) := rfl

@[simp] theorem applyTo_modify (f : σ → σ) (s : σ) :
    (modify f : Edit α σ PUnit).applyTo s = (.ok ⟨⟩, f s) := rfl

@[simp] theorem applyTo_liftM (check : Except (StateError α) β) (s : σ) :
    (liftM check : Edit α σ β).applyTo s = (check, s) := rfl

@[simp] theorem applyTo_require (check : Except (StateError α) β) (s : σ) :
    (require check : Edit α σ β).applyTo s = (check, s) := by
  cases check <;> rfl

theorem applyTo_bind (edit : Edit α σ β) (next : β → Edit α σ γ) (s : σ) :
    (edit >>= next).applyTo s =
      match edit.applyTo s with
      | (.ok x, s') => (next x).applyTo s'
      | (.error e, s') => (.error e, s') := by
  change (ExceptT.bindCont next (edit.applyTo s).1).run (edit.applyTo s).2 = _
  generalize edit.applyTo s = outcome
  obtain ⟨_ | x, s'⟩ := outcome <;> rfl

@[simp] theorem applyTo_set (t s : σ) : (set t : Edit α σ PUnit).applyTo s = (.ok ⟨⟩, t) := rfl

theorem applyTo_within (get : τ → σ) (put : σ → τ → τ) (edit : Edit α σ β) (t : τ) :
    (edit.within get put).applyTo t =
      ((edit.applyTo (get t)).1, put (edit.applyTo (get t)).2 t) := rfl

theorem onCopy_eq_ok_iff {edit : Edit α σ Unit} {s t : σ} :
    edit.onCopy s = .ok t ↔ edit.applyTo s = (.ok (), t) := by
  unfold onCopy
  generalize edit.applyTo s = outcome
  obtain ⟨_ | _, s'⟩ := outcome
  · simp
  · simp

end Steps

/-- The edit is refused and changes nothing, or it succeeds and leaves behind a value that `R`
allows. -/
def Settles (edit : Edit α σ Unit) (s : σ) (R : σ → Prop) : Prop :=
  (∃ e, edit.applyTo s = (.error e, s)) ∨ ∃ t, edit.applyTo s = (.ok (), t) ∧ R t

namespace Settles
variable {R : σ → Prop} {s : σ} {edit other : Edit α σ Unit}

theorem set {t : σ} (h : R t) : (set t : Edit α σ Unit).Settles s R :=
  .inr ⟨t, rfl, h⟩

theorem modify {f : σ → σ} (h : R (f s)) : (modify f : Edit α σ Unit).Settles s R :=
  .inr ⟨f s, rfl, h⟩

theorem throw_bind (e : StateError α) (next : β → Edit α σ Unit) :
    (throw e >>= next).Settles s R :=
  .inl ⟨e, applyTo_bind ..⟩

theorem get_bind {next : σ → Edit α σ Unit} (h : (next s).Settles s R) :
    (get >>= next).Settles s R := by
  unfold Settles
  rwa [applyTo_bind, applyTo_get]

private theorem check_bind {first : Edit α σ β} {check : Except (StateError α) β}
    (hfirst : first.applyTo s = (check, s)) {next : β → Edit α σ Unit}
    (h : ∀ x, check = .ok x → (next x).Settles s R) : (first >>= next).Settles s R := by
  unfold Settles
  rw [applyTo_bind, hfirst]
  cases hcheck : check with
  | error e => exact .inl ⟨e, rfl⟩
  | ok x => exact h x hcheck

theorem require_bind {check : Except (StateError α) β} {next : β → Edit α σ Unit}
    (h : ∀ x, check = .ok x → (next x).Settles s R) : (require check >>= next).Settles s R :=
  check_bind (applyTo_require check s) h

theorem liftM_bind {check : Except (StateError α) β} {next : β → Edit α σ Unit}
    (h : ∀ x, check = .ok x → (next x).Settles s R) : (liftM check >>= next).Settles s R :=
  check_bind (applyTo_liftM check s) h

theorem ite {c : Prop} [Decidable c] (hpos : c → edit.Settles s R) (hneg : ¬c → other.Settles s R) :
    (if c then edit else other).Settles s R := by
  split
  case isTrue h => exact hpos h
  case isFalse h => exact hneg h

theorem mono {R' : σ → Prop} (h : edit.Settles s R) (himp : ∀ t, R t → R' t) :
    edit.Settles s R' := by
  obtain hrefused | ⟨t, ht, hR⟩ := h
  · exact .inl hrefused
  · exact .inr ⟨t, ht, himp t hR⟩

theorem assertFilled_bind {state : State} {next : Unit → Edit α σ Unit}
    (h : (next ()).Settles s R) :
    (require state.assertFilled >>= next).Settles s fun t => state.empty = false ∧ R t :=
  require_bind fun _ hfilled =>
    h.mono fun _ ht => ⟨State.assertFilled_eq_ok_iff.mp hfilled, ht⟩

theorem within {read : τ → σ} {put : σ → τ → τ} {t : τ} (h : edit.Settles (read t) R)
    (hput : put (read t) t = t) :
    (edit.within read put).Settles t fun u => ∃ s', R s' ∧ u = put s' t := by
  unfold Settles
  rw [applyTo_within]
  obtain ⟨e, he⟩ | ⟨s', hs', hR⟩ := h
  · exact .inl ⟨e, by rw [he, hput]⟩
  · exact .inr ⟨_, by rw [hs'], s', hR, rfl⟩

theorem onCopy {t : σ} (h : edit.Settles s R) (hcopy : edit.onCopy s = .ok t) : R t := by
  rw [onCopy_eq_ok_iff] at hcopy
  obtain ⟨e, he⟩ | ⟨t', ht', hR⟩ := h
  · rw [he] at hcopy
    cases hcopy
  · rw [ht'] at hcopy
    cases hcopy
    exact hR

theorem refused {c : Prop} (h : edit.Settles s fun _ => c) (hc : ¬c) :
    ∃ e, edit.applyTo s = (.error e, s) := by
  obtain hrefused | ⟨-, -, hsuccess⟩ := h
  · exact hrefused
  · exact absurd hsuccess hc

end Settles

/-- The edit is not refused, and it leaves behind a value that `R` allows. -/
def Succeeds (edit : Edit α σ Unit) (s : σ) (R : σ → Prop) : Prop :=
  ∃ t, edit.applyTo s = (.ok (), t) ∧ R t

namespace Succeeds
variable {R R' : σ → Prop} {s : σ} {edit : Edit α σ Unit}

theorem modify {f : σ → σ} (h : R (f s)) : (modify f : Edit α σ Unit).Succeeds s R :=
  ⟨f s, rfl, h⟩

theorem get_bind {next : σ → Edit α σ Unit} (h : (next s).Succeeds s R) :
    (get >>= next).Succeeds s R := by
  unfold Succeeds
  rwa [applyTo_bind, applyTo_get]

theorem require_bind {check : Except (StateError α) β} {x : β} (hcheck : check = .ok x)
    {next : β → Edit α σ Unit} (h : (next x).Succeeds s R) :
    (require check >>= next).Succeeds s R := by
  unfold Succeeds
  rwa [applyTo_bind, applyTo_require, hcheck]

theorem bind {next : Unit → Edit α σ Unit} (h : edit.Succeeds s R)
    (hnext : ∀ t, R t → (next ()).Succeeds t R') : (edit >>= next).Succeeds s R' := by
  obtain ⟨t, ht, hR⟩ := h
  unfold Succeeds
  rw [applyTo_bind, ht]
  exact hnext t hR

theorem within {read : τ → σ} {put : σ → τ → τ} {t : τ} (h : edit.Succeeds (read t) R) :
    (edit.within read put).Succeeds t fun u => ∃ s', R s' ∧ u = put s' t := by
  obtain ⟨s', hs', hR⟩ := h
  unfold Succeeds
  rw [applyTo_within, hs']
  exact ⟨_, rfl, s', hR, rfl⟩

end Succeeds

/-- A refusal of the first part finds nothing changed, and the second part is not refused. -/
theorem Settles.bind {R R' : σ → Prop} {s : σ} {edit : Edit α σ Unit}
    {next : Unit → Edit α σ Unit} (h : edit.Settles s R)
    (hnext : ∀ t, R t → (next ()).Succeeds t R') : (edit >>= next).Settles s R' := by
  unfold Settles
  rw [applyTo_bind]
  obtain ⟨e, he⟩ | ⟨t, ht, hR⟩ := h
  · rw [he]
    exact .inl ⟨e, rfl⟩
  · rw [ht]
    exact .inr (hnext t hR)

/-- A refusal leaves the value as it was. -/
def Atomic (edit : Edit α σ β) : Prop :=
  ∀ s e, (edit.applyTo s).1 = .error e → (edit.applyTo s).2 = s

namespace Atomic

theorem of_settles {edit : Edit α σ Unit} {R : σ → σ → Prop} (h : ∀ s, edit.Settles s (R s)) :
    edit.Atomic := by
  intro s e herror
  obtain ⟨e', hrefused⟩ | ⟨t, ht, -⟩ := h s
  · rw [hrefused]
  · rw [ht] at herror
    cases herror

theorem modify (f : σ → σ) : (modify f : Edit α σ Unit).Atomic :=
  of_settles fun s => Settles.modify (R := fun t => t = f s) rfl

theorem within {edit : Edit α σ β} {read : τ → σ} {put : σ → τ → τ} (h : edit.Atomic)
    (hput : ∀ t, put (read t) t = t) : (edit.within read put).Atomic := by
  intro t e herror
  rw [applyTo_within] at herror ⊢
  have hread := h (read t) e herror
  simp only [hread, hput]

end Atomic

/-- Whatever its outcome, the edit leaves behind a value with the property it found. -/
def Keeps (edit : Edit α σ β) (P : σ → Prop) : Prop := ∀ s, P s → P (edit.applyTo s).2

namespace Keeps
variable {P : σ → Prop} {edit : Edit α σ β} {next : β → Edit α σ γ}

theorem of_settles {edit : Edit α σ Unit} (h : ∀ s, P s → edit.Settles s P) : edit.Keeps P := by
  intro s hs
  obtain ⟨e, he⟩ | ⟨t, ht, hP⟩ := h s hs
  · rwa [he]
  · rwa [ht]

protected theorem pure (x : β) : (pure x : Edit α σ β).Keeps P := fun _ hs => hs

protected theorem bind (h : edit.Keeps P) (hnext : ∀ x, (next x).Keeps P) :
    (edit >>= next).Keeps P := by
  intro s hs
  have hs' := h s hs
  rw [applyTo_bind]
  generalize edit.applyTo s = outcome at hs'
  obtain ⟨_ | x, s'⟩ := outcome
  · exact hs'
  · exact hnext x s' hs'

protected theorem throw (e : StateError α) : (throw e : Edit α σ β).Keeps P := fun _ hs => hs

theorem throw_bind (e : StateError α) (next : β → Edit α σ γ) : (throw e >>= next).Keeps P := by
  intro s hs
  rwa [applyTo_bind]

protected theorem get : (get : Edit α σ σ).Keeps P := fun _ hs => hs

/-- What is read has the property too. -/
theorem get_bind {next : σ → Edit α σ β} (h : ∀ s, P s → (next s).Keeps P) :
    (get >>= next : Edit α σ β).Keeps P := by
  intro s hs
  rw [applyTo_bind]
  exact h s hs s hs

protected theorem set {t : σ} (h : P t) : (set t : Edit α σ PUnit).Keeps P := fun _ _ => h

protected theorem modify {f : σ → σ} (h : ∀ s, P s → P (f s)) :
    (modify f : Edit α σ PUnit).Keeps P := h

protected theorem liftM (check : Except (StateError α) β) : (liftM check : Edit α σ β).Keeps P :=
  fun _ hs => hs

theorem liftM_bind {check : Except (StateError α) β} (h : ∀ x, check = .ok x → (next x).Keeps P) :
    (liftM check >>= next : Edit α σ γ).Keeps P := by
  intro s hs
  rw [applyTo_bind, applyTo_liftM]
  cases hcheck : check with
  | error e => exact hs
  | ok x => exact h x hcheck s hs

theorem ite {c : Prop} [Decidable c] {other : Edit α σ β} (h : edit.Keeps P)
    (hother : other.Keeps P) : (if c then edit else other).Keeps P := by
  split
  · exact h
  · exact hother

theorem forM {xs : List τ} {each : τ → Edit α σ PUnit} (h : ∀ x ∈ xs, (each x).Keeps P) :
    (xs.forM each).Keeps P := by
  induction xs with
  | nil => exact fun _ hs => hs
  | cons x xs ih =>
    obtain ⟨hx, hxs⟩ := List.forall_mem_cons.mp h
    exact .bind hx fun _ => ih hxs

protected theorem require (check : Except (StateError α) β) :
    (require check : Edit α σ β).Keeps P := by
  intro s hs
  rwa [applyTo_require]

theorem within {Q : τ → Prop} {read : τ → σ} {put : σ → τ → τ} (h : edit.Keeps P)
    (hread : ∀ t, Q t → P (read t)) (hput : ∀ s t, P s → Q t → Q (put s t)) :
    (edit.within read put).Keeps Q := by
  intro t ht
  rw [applyTo_within]
  exact hput _ t (h _ (hread t ht)) ht

theorem onCopy {edit : Edit α σ Unit} (h : edit.Keeps P) {s s' : σ} (hs : P s)
    (hcopy : edit.onCopy s = .ok s') : P s' := by
  have hafter := h s hs
  rwa [onCopy_eq_ok_iff.mp hcopy] at hafter

end Keeps
end Edit
end Kinematics
