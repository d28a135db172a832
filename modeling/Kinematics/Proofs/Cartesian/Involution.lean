import Kinematics.Proofs.Cartesian.Groupoid
import Kinematics.Proofs.Cartesian.Orientation
import Kinematics.Proofs.Session.Confined

/-!
# The inverse is an involution

The inverse of a state turns its vectors by the conjugate quaternion and swaps name and frame. Taken
twice, it turns each vector there and back and swaps the names back. Nothing is left changed, not even
the sign of the quaternion, because conjugation needs no choice of a sign.
-/

namespace Kinematics

namespace CartesianValues
open CartesianState (inverseValues)
variable {v : CartesianValues ℝ}

theorem inverse_inverse (hv : v.orientation.IsRotation) :
    inverseValues (inverseValues v) = v := by
  apply ext_vector
  · rw [orientation_inverse, orientation_inverse, Quaternion.conjugate_conjugate]
  · intro field
    rw [vector_inverse, vector_inverse, orientation_inverse, Quaternion.conjugate_conjugate,
      ← Quaternion.rotate_neg, neg_neg, Quaternion.rotate_conjugate_rotate hv]

/-- What rests at identity does so in the inverse. -/
theorem restrict_inverse {fields : List CartesianField} (hv : v.restrict fields = v) :
    (inverseValues v).restrict fields = inverseValues v := by
  obtain ⟨horientation, hvector⟩ := restrict_eq_self_iff.mp hv
  apply restrict_eq_self_iff.mpr
  constructor
  · intro hout
    rw [orientation_inverse, horientation hout, Quaternion.conjugate_identity]
  · intro field hout
    rw [vector_inverse, hvector field hout, neg_zero, Quaternion.rotate_zero]

end CartesianValues

namespace CartesianState
variable {s : CartesianState ℝ}

/-- The reference frame of a state, seen from the frame of the state. -/
def inverted {α : Type} [Scalar α] (s : CartesianState α) : CartesianState α :=
  { s with name := s.frame, frame := s.name, values := inverseValues s.values }

theorem inverted_inverted (hs : s.Oriented) : s.inverted.inverted = s := by
  have hvalues : inverseValues (inverseValues s.values) = s.values :=
    CartesianValues.inverse_inverse hs
  rw [inverted, inverted, hvalues]

theorem inverse_inverse_eq_ok (hfilled : s.empty = false) (hs : s.Oriented) :
    (do (← s.inverse).inverse) = .ok s := by
  calc (do (← s.inverse).inverse)
    _ = s.inverted.inverse := by
        rw [inverse_eq_ok hfilled]
        rfl
    _ = .ok s.inverted.inverted := inverse_eq_ok hfilled
    _ = .ok s := by rw [inverted_inverted hs]

end CartesianState

namespace CartesianProjection
variable {kind : CartesianKind} {p : CartesianProjection ℝ kind}

/-- Projecting the inverse of a confined projection drops nothing. -/
theorem general_inverted (hp : p.Confined) : p.inverted.general = p.general.inverted := by
  obtain ⟨htype, hvalues⟩ := confined_iff.mp hp
  rw [inverted, CartesianState.project, CartesianValues.restrict_inverse hvalues, ← htype]
  rfl

theorem inverted_inverted (hp : p.Confined) (hp' : p.Oriented) : p.inverted.inverted = p := by
  have hback : p.inverted.inverted.general = p.general := by
    have hconfined : p.inverted.Confined := confined_project _
    rw [general_inverted hconfined, general_inverted hp, CartesianState.inverted_inverted hp']
  calc p.inverted.inverted
    _ = ⟨p.inverted.inverted.general⟩ := rfl
    _ = p := by rw [hback]

theorem inverse_inverse_eq_ok (hfilled : p.general.empty = false) (hp : p.Confined)
    (hp' : p.Oriented) : (do (← p.inverse).inverse) = .ok p := by
  calc (do (← p.inverse).inverse)
    _ = p.inverted.inverse := by
        rw [inverse_eq_ok hfilled]
        rfl
    _ = .ok p.inverted.inverted := inverse_eq_ok hfilled
    _ = .ok p := by rw [inverted_inverted hp hp']

end CartesianProjection

/-- Inverting a filled state of unit orientation twice succeeds and leads back to the very state:
all eight fields with the sign of the quaternion, name, frame, type, timestamp and emptiness. So it
does for every projection that operations of the library yield. -/
theorem inverse_is_involution :
    (∀ s : CartesianState ℝ, s.empty = false → s.Oriented →
      (do (← s.inverse).inverse) = .ok s) ∧
    ∀ {c : Conduct ℝ} {held : List (Value ℝ)}, Session c held →
      ∀ (kind : CartesianKind) (p : CartesianProjection ℝ kind), .projection p ∈ held →
        p.general.empty = false → p.Oriented → (do (← p.inverse).inverse) = .ok p := by
  constructor
  · intro s hfilled hs
    exact CartesianState.inverse_inverse_eq_ok hfilled hs
  · intro c held hsession kind p hheld hfilled hp
    have hconfined : p.Confined := hsession.holds (Property.confined_kept c) (.projection p) hheld
    exact CartesianProjection.inverse_inverse_eq_ok hfilled hconfined hp

/-- A turned arm that moves, and the force at its tip. -/
theorem inverse_is_involution_turned :
    let arm : CartesianState ℝ :=
      (((CartesianState.identity "arm" "base" ⟨0⟩).setOrientation ⟨-3 / 5, 0, 4 / 5, 0⟩).setVector
        .position ⟨1, 2, 3⟩).setVector .angularVelocity ⟨0, 0, 1⟩
    let wrench : CartesianWrench ℝ := .ofParts .wrench "tip" ⟨0, 1, 0⟩ ⟨2, 0, 0⟩ "arm" ⟨1⟩
    arm.empty = false ∧ arm.Oriented ∧ (do (← arm.inverse).inverse) = .ok arm ∧
      ∃ held, Session .free held ∧ .projection wrench ∈ held ∧ wrench.general.empty = false ∧
        wrench.Oriented ∧ (do (← wrench.inverse).inverse) = .ok wrench := by
  intro arm wrench
  have harm : arm.Oriented := Quaternion.IsRotation.of_coefficients (by norm_num)
  have hwrench : wrench.Oriented := Quaternion.IsRotation.identity
  have hsession : Session .free [.projection wrench] :=
    Session.start.step (.projection (.ofVectors ..))
  obtain ⟨hstates, hprojections⟩ := inverse_is_involution
  exact ⟨rfl, harm, hstates arm rfl harm, _, hsession, List.mem_cons_self, rfl, hwrench,
    hprojections hsession _ wrench List.mem_cons_self rfl hwrench⟩

end Kinematics
