import Kinematics.Proofs.Scalar.Partial
import Kinematics.Limits
import Kinematics.Proofs.Edit

/-!
# Accepted limits

Limits are accepted exactly if every maximum is accepted with its ratio. Real maxima are finite: one
of them is accepted exactly if it is not negative and the ratio lies between zero and one.
-/

namespace Kinematics

section Checks
variable {ε β γ : Type}

theorem guard_eq_ok_iff {c : Prop} [Decidable c] {e : ε} {next : β → Except ε γ}
    {rest : Except ε γ} {r : γ} :
    (if c then throw e >>= next else rest) = .ok r ↔ ¬c ∧ rest = .ok r := by
  refine ⟨of_guard_eq_ok, fun ⟨hc, hrest⟩ => ?_⟩
  rwa [if_neg hc]

theorem check_bind_eq_ok_iff {check : Except ε Unit} {rest : Except ε γ} {r : γ} :
    (check >>= fun _ => rest) = .ok r ↔ check = .ok () ∧ rest = .ok r := by
  cases check with
  | error e => exact iff_of_false nofun nofun
  | ok => exact (and_iff_right rfl).symm

theorem forM_eq_ok_iff {check : β → Except ε Unit} {xs : List β} :
    xs.forM check = .ok () ↔ ∀ x ∈ xs, check x = .ok () := by
  induction xs with
  | nil => exact iff_of_true rfl fun x hx => absurd hx List.not_mem_nil
  | cons x xs ih => rw [List.forM, check_bind_eq_ok_iff, ih, List.forall_mem_cons]

end Checks

/-- A maximum that the checks accept with its dead zone. -/
def Accepted {α : Type} [Scalar α] (bound ratio : α) : Prop :=
  isLimit bound = true ∧ validateDeadZone bound ratio = .ok ()

section General
variable {α : Type} [Scalar α] {bound ratio : α}

theorem validateDeadZone_eq_ok_iff :
    validateDeadZone bound ratio = .ok () ↔
      (0 ≤ ratio ∧ ratio ≤ 1) ∧ ((ratio == 0) = true ∨ Scalar.isInfinite bound = false) := by
  unfold validateDeadZone
  rw [guard_eq_ok_iff]
  refine and_congr (by simp) ?_
  dsimp only
  split
  case isTrue h => exact iff_of_false nofun (by simpa using h)
  case isFalse h => exact iff_of_true rfl (by simpa [or_iff_not_imp_left] using h)

theorem CartesianLimits.validate_eq_ok_iff {l : CartesianLimits α} :
    l.validate = .ok () ↔
      Accepted l.maxLinear l.linearRatio ∧ Accepted l.maxAngular l.angularRatio := by
  unfold validate
  rw [guard_eq_ok_iff, guard_eq_ok_iff]
  dsimp only
  rw [check_bind_eq_ok_iff, Bool.not_eq_true', Bool.not_eq_true', Bool.not_eq_false,
    Bool.not_eq_false, Accepted, Accepted]
  tauto

theorem JointLimits.validate_eq_ok_iff {l : JointLimits α} :
    l.validate = .ok () ↔ l.ratios.length = l.maxima.length ∧
      ∀ pair ∈ l.maxima.zip l.ratios, Accepted pair.1 pair.2 := by
  unfold validate
  rw [guard_eq_ok_iff, guard_eq_ok_iff, forM_eq_ok_iff, not_not]
  refine and_congr_right fun hlength => ?_
  have hmaxima : l.maxima = (l.maxima.zip l.ratios).map Prod.fst :=
    (List.map_fst_zip hlength.ge).symm
  have hlimits : ¬(!l.maxima.all isLimit) = true ↔
      ∀ pair ∈ l.maxima.zip l.ratios, isLimit pair.1 = true := by
    rw [Bool.not_eq_true', Bool.not_eq_false, List.all_eq_true, hmaxima, List.forall_mem_map,
      ← hmaxima]
  rw [hlimits, ← forall₂_and]
  rfl

end General

section Real
open PartialReal (defined defined_beq defined_lt)
variable {bound ratio : ℝ}

theorem Scalar.isNaN_eq (x : ℝ) : isNaN x = false :=
  congrArg not (decide_eq_true (rfl : x = x))

theorem Scalar.isInfinite_eq (x : ℝ) : isInfinite x = false := by
  have hfinite : isFinite x = true := decide_eq_true (sub_self x)
  rw [isInfinite, hfinite]
  rfl

theorem PartialReal.isNaN_defined (x : ℝ) : Scalar.isNaN (defined x) = false :=
  congrArg not (defined_beq.mpr rfl)

theorem PartialReal.isInfinite_defined (x : ℝ) : Scalar.isInfinite (defined x) = false := by
  have hfinite : Scalar.isFinite (defined x) = true := defined_beq.mpr (sub_self x)
  rw [Scalar.isInfinite, hfinite]
  rfl

theorem accepted_iff : Accepted bound ratio ↔ 0 ≤ bound ∧ 0 ≤ ratio ∧ ratio ≤ 1 := by
  rw [Accepted, validateDeadZone_eq_ok_iff, isLimit, Scalar.isNaN_eq, Scalar.isInfinite_eq]
  simp

/-- The checks compute nothing that is undefined. -/
theorem accepted_defined_iff : Accepted (defined bound) (defined ratio) ↔ Accepted bound ratio := by
  have hneg : defined bound < 0 ↔ bound < 0 := Iff.rfl
  have hnonneg : 0 ≤ defined ratio ↔ 0 ≤ ratio := Iff.rfl
  have hle : defined ratio ≤ 1 ↔ ratio ≤ 1 := Iff.rfl
  rw [Accepted, Accepted, validateDeadZone_eq_ok_iff, validateDeadZone_eq_ok_iff, isLimit, isLimit,
    PartialReal.isNaN_defined, PartialReal.isInfinite_defined, Scalar.isNaN_eq,
    Scalar.isInfinite_eq, hnonneg, hle]
  simp [hneg]

end Real
end Kinematics
