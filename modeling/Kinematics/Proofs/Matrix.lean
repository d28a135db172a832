import Kinematics.Matrix
import Kinematics.Proofs.Scalar

/-!
# Gains as matrices

At the real numbers, a dense matrix multiplies a list of numbers as a matrix multiplies a vector.
The laws of products of matrices are therefore laws of gains.
-/

namespace Kinematics
open Scalar (dot_ofFn exists_eq_ofFn zipWith_ofFn)

namespace DenseMatrix
variable {n : ℕ}

def ofMatrix {α : Type} {m : ℕ} (M : Matrix (Fin m) (Fin n) α) : DenseMatrix α := ⟨m, n, M⟩

theorem length_mulVec {α : Type} [Scalar α] (m : DenseMatrix α) (xs : List α) :
    (m.mulVec xs).length = m.rows :=
  List.length_ofFn

theorem mulVec_ofFn {m : ℕ} (M : Matrix (Fin m) (Fin n) ℝ) (x : Fin n → ℝ) :
    (ofMatrix M).mulVec (List.ofFn x) = List.ofFn (M.mulVec x) := by
  rw [mulVec]
  congr 1
  funext i
  exact dot_ofFn (M i) x

variable {G H : Matrix (Fin n) (Fin n) ℝ} {xs ys : List ℝ}

theorem mulVec_mulVec (H G : Matrix (Fin n) (Fin n) ℝ) (hxs : xs.length = n) :
    (ofMatrix H).mulVec ((ofMatrix G).mulVec xs) = (ofMatrix (H * G)).mulVec xs := by
  obtain ⟨x, rfl⟩ := exists_eq_ofFn hxs
  rw [mulVec_ofFn, mulVec_ofFn, mulVec_ofFn, Matrix.mulVec_mulVec]

theorem mulVec_diagonal (g : Fin n → ℝ) (hxs : xs.length = n) :
    (ofMatrix (Matrix.diagonal g)).mulVec xs = List.zipWith (· * ·) xs (List.ofFn g) := by
  obtain ⟨x, rfl⟩ := exists_eq_ofFn hxs
  rw [mulVec_ofFn, zipWith_ofFn]
  congr 1
  funext i
  rw [Matrix.mulVec_diagonal, mul_comm]

theorem mulVec_add (G : Matrix (Fin n) (Fin n) ℝ) (hxs : xs.length = n) (hys : ys.length = n) :
    (ofMatrix G).mulVec (List.zipWith (· + ·) xs ys) =
      List.zipWith (· + ·) ((ofMatrix G).mulVec xs) ((ofMatrix G).mulVec ys) := by
  obtain ⟨x, rfl⟩ := exists_eq_ofFn hxs
  obtain ⟨y, rfl⟩ := exists_eq_ofFn hys
  rw [zipWith_ofFn, mulVec_ofFn, mulVec_ofFn, mulVec_ofFn, zipWith_ofFn]
  exact congrArg List.ofFn (Matrix.mulVec_add G x y)

end DenseMatrix

/-- The square matrix that is `gain` on its rows and columns from `start` on, and the identity
elsewhere. -/
def widened {α : Type} [Zero α] [One α] {n : ℕ} (gain : Matrix (Fin n) (Fin n) α)
    (start size : ℕ) : Matrix (Fin size) (Fin size) α :=
  .of fun p q =>
    if h : (start ≤ p.val ∧ p.val < start + n) ∧ start ≤ q.val ∧ q.val < start + n then
      gain ⟨p.val - start, by omega⟩ ⟨q.val - start, by omega⟩
    else if p = q then 1 else 0

section Widened
variable {n start size : ℕ} (G : Matrix (Fin n) (Fin n) ℝ)

theorem widened_mulVec_of_outside (x : Fin size → ℝ) {p : Fin size}
    (hp : ¬(start ≤ p.val ∧ p.val < start + n)) : (widened G start size).mulVec x p = x p := by
  have hrow : widened G start size p = Pi.single p 1 := by
    funext q
    rw [widened, Matrix.of_apply, dif_neg fun h => hp h.1, Pi.single_apply]
    simp only [eq_comm]
  rw [Matrix.mulVec, hrow, single_dotProduct, one_mul]

theorem widened_mulVec_of_inside (h : start + n ≤ size) (x : Fin size → ℝ) (i : Fin n) :
    (widened G start size).mulVec x ⟨start + i, by omega⟩ =
      G.mulVec (fun j => x ⟨start + j, by omega⟩) i := by
  rw [Matrix.mulVec, Matrix.mulVec, dotProduct, dotProduct, eq_comm]
  apply Fintype.sum_of_injective fun j : Fin n => (⟨start + j, by omega⟩ : Fin size)
  · intro j k hjk
    simpa [Fin.ext_iff] using hjk
  · -- The diagonal of this row is inside the block, so the columns outside of it hold zeros.
    intro q hq
    have hout : ¬(start ≤ q.val ∧ q.val < start + n) := fun hin =>
      hq ⟨⟨q - start, by omega⟩, Fin.ext (Nat.add_sub_cancel' hin.1)⟩
    have hne : (⟨start + i, by omega⟩ : Fin size) ≠ q := by
      rintro rfl
      exact hout ⟨Nat.le_add_right .., Nat.add_lt_add_left i.isLt _⟩
    rw [widened, Matrix.of_apply, dif_neg fun h => hout h.2, if_neg hne, zero_mul]
  · intro j
    simp [widened]

theorem widened_mulVec_append {before after : ℕ} (x : Fin before → ℝ) (y : Fin n → ℝ)
    (z : Fin after → ℝ) :
    (widened G before (before + n + after)).mulVec (Fin.append (Fin.append x y) z) =
      Fin.append (Fin.append x (G.mulVec y)) z := by
  funext p
  induction p using Fin.addCases with
  | left p =>
    induction p using Fin.addCases with
    | left i =>
      rw [widened_mulVec_of_outside _ _ (by simp)]
      simp only [Fin.append_left]
    | right i =>
      have hinside := widened_mulVec_of_inside G (Nat.le_add_right (before + n) after)
        (Fin.append (Fin.append x y) z) i
      have hy : (fun j : Fin n => Fin.append (Fin.append x y) z ⟨before + j, by omega⟩) = y := by
        funext j
        exact (Fin.append_left _ z (j.natAdd before)).trans (Fin.append_right x y j)
      rw [hy] at hinside
      rw [Fin.append_left, Fin.append_right]
      exact hinside
  | right i =>
    rw [widened_mulVec_of_outside _ _ (by simp)]
    simp only [Fin.append_right]

/-- The widened gain multiplies the selected numbers and leaves the others alone. -/
theorem mulVec_widened {before selected after : List ℝ} (hselected : selected.length = n)
    (hsize : before.length + n + after.length = size) :
    (DenseMatrix.ofMatrix (widened G before.length size)).mulVec (before ++ selected ++ after) =
      before ++ (DenseMatrix.ofMatrix G).mulVec selected ++ after := by
  subst hsize
  obtain ⟨x, hx⟩ := exists_eq_ofFn (rfl : before.length = before.length)
  obtain ⟨y, rfl⟩ := exists_eq_ofFn hselected
  obtain ⟨z, hz⟩ := exists_eq_ofFn (rfl : after.length = after.length)
  have happend (y : Fin n → ℝ) : before ++ List.ofFn y ++ after =
      List.ofFn (Fin.append (Fin.append x y) z) := by
    rw [List.ofFn_fin_append, List.ofFn_fin_append, ← hx, ← hz]
  rw [DenseMatrix.mulVec_ofFn, happend, happend, DenseMatrix.mulVec_ofFn, widened_mulVec_append]

end Widened

/-- The matrix with two blocks on its diagonal and zeros elsewhere. -/
def diagonalBlocks {α : Type} [Zero α] {m n : ℕ} (U : Matrix (Fin m) (Fin m) α)
    (L : Matrix (Fin n) (Fin n) α) : Matrix (Fin (m + n)) (Fin (m + n)) α :=
  Matrix.reindex finSumFinEquiv finSumFinEquiv (.fromBlocks U 0 0 L)

/-- The matrix with zeros in place of its blocks off the diagonal. -/
def uncoupled {α : Type} [Zero α] (m n : ℕ) (M : Matrix (Fin (m + n)) (Fin (m + n)) α) :
    Matrix (Fin (m + n)) (Fin (m + n)) α :=
  .of fun i j => if i.val < m ↔ j.val < m then M i j else 0

theorem uncoupled_eq {α : Type} [Zero α] {m n : ℕ} (M : Matrix (Fin (m + n)) (Fin (m + n)) α) :
    uncoupled m n M = diagonalBlocks (M.submatrix (Fin.castAdd n) (Fin.castAdd n))
      (M.submatrix (Fin.natAdd m) (Fin.natAdd m)) := by
  ext i j
  induction i using Fin.addCases with
  | left i =>
    induction j using Fin.addCases with
    | left j => simp [uncoupled, diagonalBlocks]
    | right j => simp [uncoupled, diagonalBlocks]
  | right i =>
    induction j using Fin.addCases with
    | left j => simp [uncoupled, diagonalBlocks]
    | right j => simp [uncoupled, diagonalBlocks]

section Blocks
variable {m n : ℕ} (U : Matrix (Fin m) (Fin m) ℝ) (L : Matrix (Fin n) (Fin n) ℝ)

theorem diagonalBlocks_mulVec (x : Fin m → ℝ) (y : Fin n → ℝ) :
    (diagonalBlocks U L).mulVec (Fin.append x y) = Fin.append (U.mulVec x) (L.mulVec y) := by
  have hleft : (Fin.append x y ∘ finSumFinEquiv) ∘ Sum.inl = x := funext (Fin.append_left x y)
  have hright : (Fin.append x y ∘ finSumFinEquiv) ∘ Sum.inr = y := funext (Fin.append_right x y)
  rw [diagonalBlocks, Matrix.reindex_apply, Matrix.submatrix_mulVec_equiv, Equiv.symm_symm,
    Matrix.fromBlocks_mulVec, hleft, hright, Matrix.zero_mulVec, Matrix.zero_mulVec, add_zero,
    zero_add]
  funext p
  induction p using Fin.addCases with
  | left i => simp
  | right i => simp

/-- Each block multiplies its own numbers. -/
theorem mulVec_diagonalBlocks {xs ys : List ℝ} (hxs : xs.length = m) (hys : ys.length = n) :
    (DenseMatrix.ofMatrix (diagonalBlocks U L)).mulVec (xs ++ ys) =
      (DenseMatrix.ofMatrix U).mulVec xs ++ (DenseMatrix.ofMatrix L).mulVec ys := by
  obtain ⟨x, rfl⟩ := exists_eq_ofFn hxs
  obtain ⟨y, rfl⟩ := exists_eq_ofFn hys
  rw [← List.ofFn_fin_append, DenseMatrix.mulVec_ofFn, DenseMatrix.mulVec_ofFn,
    DenseMatrix.mulVec_ofFn, diagonalBlocks_mulVec, List.ofFn_fin_append]

end Blocks
end Kinematics
