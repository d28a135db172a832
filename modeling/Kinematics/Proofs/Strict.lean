import Kinematics.Matrix
import Kinematics.Proofs.Edit

/-!
# Strict computations

Lists answer every access: an index out of range finds nothing, a slice ends where its list ends,
and of two lists of different sizes the rest of the longer one is dropped. A strict computation
makes the same accesses and has no outcome at all when one of them does not fit. Where it has the
outcome of the plain computation, every access fits.
-/

namespace Kinematics

/-- A computation that has no outcome when one of its accesses does not fit. -/
abbrev Strict (α β : Type) := ExceptT (StateError α) Option β

/-- An edit that has no outcome when one of its accesses does not fit. -/
abbrev StrictEdit (α σ β : Type) := ExceptT (StateError α) (StateT σ Option) β

namespace Strict
variable {α β γ δ : Type}

section Access

def item (xs : List β) (index : Nat) : Option β := xs[index]?

def replace (xs : List β) (index : Nat) (x : β) : Option (List β) :=
  if index < xs.length then some (xs.set index x) else none

/-- The elements from the index `start` up to, and without, the index `stop`. -/
def slice (xs : List β) (start stop : Nat) : Option (List β) :=
  if start ≤ stop ∧ stop ≤ xs.length then some ((xs.take stop).drop start) else none

/-- Overwrites the elements of a list by as many others. -/
def copy (target source : List β) : Option (List β) :=
  if source.length = target.length then some source else none

def zipWith (f : β → γ → δ) (xs : List β) (ys : List γ) : Option (List δ) :=
  if xs.length = ys.length then some (List.zipWith f xs ys) else none

def mulVec [Scalar α] (m : DenseMatrix α) (v : List α) : Option (List α) :=
  if m.cols = v.length then some (m.mulVec v) else none

variable {xs : List β}

theorem replace_of_lt {index : Nat} (h : index < xs.length) (x : β) :
    replace xs index x = some (xs.set index x) := if_pos h

/-- The slice at `start` of the given size is what a prefix of the rest holds. -/
theorem slice_of_le {start size : Nat} (h : start + size ≤ xs.length) :
    slice xs start (start + size) = some ((xs.drop start).take size) := by
  have hrange : start ≤ start + size ∧ start + size ≤ xs.length := ⟨Nat.le_add_right .., h⟩
  rw [slice, if_pos hrange, List.take_drop]

theorem copy_of_length_eq {target source : List β} (h : source.length = target.length) :
    copy target source = some source := if_pos h

theorem zipWith_of_length_eq {f : β → γ → δ} {ys : List γ} (h : xs.length = ys.length) :
    zipWith f xs ys = some (List.zipWith f xs ys) := if_pos h

theorem mulVec_of_length_eq [Scalar α] {m : DenseMatrix α} {v : List α} (h : m.cols = v.length) :
    mulVec m v = some (m.mulVec v) := if_pos h

end Access

/-- Goes on with the result of a check, or is refused with its error. -/
def require (check : Except (StateError α) β) : Strict α β := ExceptT.mk (some check)

/-- Goes on with what an access finds. -/
def access (found : Option β) : Strict α β := ExceptT.mk (found.map .ok)

/-- The strict computation has an outcome, and it is the plain one. -/
def Follows (strict : Strict α β) (plain : Except (StateError α) β) : Prop :=
  strict.run = some plain

namespace Follows

theorem require (plain : Except (StateError α) β) : (require plain).Follows plain := rfl

theorem pure (x : β) : Follows (pure x : Strict α β) (.ok x) := rfl

theorem access {found : Option β} {x : β} (hfound : found = some x) :
    (access found).Follows (Except.ok x : Except (StateError α) β) := by
  rw [hfound]
  rfl

theorem require_bind {check : Except (StateError α) β} {strict : β → Strict α γ}
    {next : β → Except (StateError α) γ}
    (h : ∀ x, check = .ok x → (strict x).Follows (next x)) :
    Follows (Strict.require check >>= strict) (check >>= next) := by
  cases hcheck : check with
  | error e => rfl
  | ok x => exact h x hcheck

theorem access_bind {found : Option β} {x : β} (hfound : found = some x)
    {strict : β → Strict α γ} {plain : Except (StateError α) γ} (h : (strict x).Follows plain) :
    Follows (Strict.access found >>= strict) plain := by
  rw [hfound]
  exact h

theorem bind {strict : Strict α β} {plain : Except (StateError α) β} (hfirst : strict.Follows plain)
    {strictNext : β → Strict α γ} {next : β → Except (StateError α) γ}
    (hnext : ∀ x, plain = .ok x → (strictNext x).Follows (next x)) :
    Follows (strict >>= strictNext) (plain >>= next) := by
  have hrun : strict = (ExceptT.mk (some plain) : Strict α β) := hfirst
  rw [hrun]
  cases hplain : plain with
  | error e => rfl
  | ok x => exact hnext x hplain

end Follows
end Strict

namespace StrictEdit
variable {α σ τ β γ : Type}

def applyTo (edit : StrictEdit α σ β) (s : σ) : Option (Except (StateError α) β × σ) :=
  edit.run.run s

/-- The edited value; the value given stays as it was. -/
def onCopy (edit : StrictEdit α σ Unit) (s : σ) : Strict α σ :=
  ExceptT.mk <| (edit.applyTo s).map fun
    | (.ok _, s') => .ok s'
    | (.error e, _) => .error e

def within (get : τ → σ) (put : σ → τ → τ) (edit : StrictEdit α σ β) : StrictEdit α τ β :=
  ExceptT.mk fun t => (edit.applyTo (get t)).map fun (r, s) => (r, put s t)

/-- Goes on with the result of a check, or is refused with its error. -/
def require (check : Except (StateError α) β) : StrictEdit α σ β :=
  ExceptT.mk fun s => some (check, s)

/-- Goes on with what an access finds. -/
def access (found : Option β) : StrictEdit α σ β :=
  ExceptT.mk fun s => found.map fun x => (.ok x, s)

/-- An edit without accesses. -/
def ofEdit (edit : Edit α σ β) : StrictEdit α σ β := ExceptT.mk fun s => some (edit.applyTo s)

/-- The strict edit of `s` has an outcome, and it is the plain one. -/
def Follows (strict : StrictEdit α σ β) (plain : Edit α σ β) (s : σ) : Prop :=
  strict.applyTo s = some (plain.applyTo s)

namespace Follows
variable {s : σ} {strict : StrictEdit α σ β} {plain : Edit α σ β}

theorem ofEdit (plain : Edit α σ β) : (ofEdit plain).Follows plain s := rfl

theorem set (t : σ) : Follows (set t : StrictEdit α σ PUnit) (set t) s := rfl

theorem throw_bind {e : StateError α} {strictNext : γ → StrictEdit α σ β} {next : γ → Edit α σ β} :
    Follows (throw e >>= strictNext) (throw e >>= next) s := rfl

theorem get_bind {strictNext : σ → StrictEdit α σ β} {next : σ → Edit α σ β}
    (h : (strictNext s).Follows (next s) s) : Follows (get >>= strictNext) (get >>= next) s := h

theorem require_bind {check : Except (StateError α) γ} {strictNext : γ → StrictEdit α σ β}
    {next : γ → Edit α σ β} (h : ∀ x, check = .ok x → (strictNext x).Follows (next x) s) :
    Follows (require check >>= strictNext) (Edit.require check >>= next) s := by
  cases hcheck : check with
  | error e => rfl
  | ok x => exact h x hcheck

theorem liftM_bind {check : Except (StateError α) γ} {strictNext : γ → StrictEdit α σ β}
    {next : γ → Edit α σ β} (h : ∀ x, check = .ok x → (strictNext x).Follows (next x) s) :
    Follows (require check >>= strictNext) (liftM check >>= next) s := by
  cases hcheck : check with
  | error e => rfl
  | ok x => exact h x hcheck

theorem access_bind {found : Option γ} {x : γ} (hfound : found = some x)
    {strictNext : γ → StrictEdit α σ β} (h : (strictNext x).Follows plain s) :
    Follows (access found >>= strictNext) plain s := by
  rw [hfound]
  exact h

theorem ite {c : Prop} [Decidable c] {strict' : StrictEdit α σ β} {plain' : Edit α σ β}
    (hpos : c → strict.Follows plain s) (hneg : ¬c → strict'.Follows plain' s) :
    Follows (if c then strict else strict') (if c then plain else plain') s := by
  by_cases h : c
  · rw [if_pos h, if_pos h]
    exact hpos h
  · rw [if_neg h, if_neg h]
    exact hneg h

theorem within {read : τ → σ} {put : σ → τ → τ} {t : τ} (h : strict.Follows plain (read t)) :
    (strict.within read put).Follows (plain.within read put) t := by
  have happly : strict.applyTo (read t) = some (plain.applyTo (read t)) := h
  change Option.map _ (strict.applyTo (read t)) = _
  rw [happly]
  rfl

theorem onCopy {strict : StrictEdit α σ Unit} {plain : Edit α σ Unit} (h : strict.Follows plain s) :
    (strict.onCopy s).Follows (plain.onCopy s) := by
  have happly : strict.applyTo s = some (plain.applyTo s) := h
  change Option.map _ (strict.applyTo s) = _
  rw [happly, Edit.onCopy]
  rfl

end Follows
end StrictEdit
end Kinematics
