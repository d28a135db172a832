import Kinematics.Error

/-!
# Edits in place

An edit changes a value and may be refused on the way. The value that a refused edit leaves
behind can be seen, so that "nothing has changed" is something to state.
-/

namespace Kinematics

abbrev Edit (α σ : Type) := ExceptT (StateError α) (StateM σ)

namespace Edit
variable {α σ τ β : Type}

/-- The outcome of the edit and the value afterwards. -/
def applyTo (edit : Edit α σ β) (s : σ) : Except (StateError α) β × σ := (edit.run).run s

/-- The edited value; the value given stays as it was. -/
def onCopy (edit : Edit α σ Unit) (s : σ) : Except (StateError α) σ :=
  match edit.applyTo s with
  | (.ok _, s') => .ok s'
  | (.error e, _) => .error e

/-- Edits a part of a larger value. -/
def within (get : τ → σ) (put : σ → τ → τ) (edit : Edit α σ β) : Edit α τ β :=
  ExceptT.mk fun t => let (r, s) := edit.applyTo (get t); (r, put s t)

/-- Goes on with the result of a check, or is refused with its error. -/
def require (check : Except (StateError α) β) : Edit α σ β := ofExcept check

end Edit
end Kinematics
