import Kinematics.Scalar

/-!
# Dense matrices
-/

namespace Kinematics

structure DenseMatrix (α : Type) where
  rows : Nat
  cols : Nat
  entry : Fin rows → Fin cols → α

namespace DenseMatrix
variable {α : Type}

def row (m : DenseMatrix α) (i : Fin m.rows) : List α := List.ofFn (m.entry i)

/-- The entries, row after row. -/
def toList (m : DenseMatrix α) : List α := (List.ofFn m.row).flatten

/-- The matrix whose entries stand row after row in `data`; a missing entry is zero. -/
def ofList [Zero α] (rows cols : Nat) (data : List α) : DenseMatrix α :=
  ⟨rows, cols, fun i j => (data[i.val * cols + j.val]?).getD 0⟩

/-- The product with a column of length `cols`. -/
def mulVec [Scalar α] (m : DenseMatrix α) (v : List α) : List α :=
  List.ofFn fun i => Scalar.dot (m.row i) v

end DenseMatrix
end Kinematics
