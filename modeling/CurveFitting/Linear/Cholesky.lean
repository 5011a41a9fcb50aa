import CurveFitting.Linear.RowMatrix

/-! # Cholesky factors

A positive definite matrix is the product of a lower triangular matrix and its
transpose. The factor is found column by column from the lower triangle, and
the inverse by solving for every column of the identity.
-/

namespace CurveFitting

/-- A lower triangular factor, as the vector of its columns. -/
structure Cholesky (α : Type) (n : Nat) where
  columns : Vector (Vector α n) n

namespace Cholesky

variable {α : Type} [Scalar α] {n count : Nat}

/-- Column `j` of a matrix after the columns of the factor before it have been
eliminated. -/
def reduced (matrix : RowMatrix α n n) (earlier : Vector (Vector α n) count)
    (j : Fin n) : Vector α n :=
  Vector.ofFn fun i =>
    earlier.foldl (fun entry column => -column.get j * column.get i + entry)
      ((matrix.get i).get j)

/-- Column `j` of the factor. There is none without a positive pivot. -/
def nextColumn (matrix : RowMatrix α n n) (earlier : Vector (Vector α n) count)
    (j : Fin n) : Option (Vector α n) :=
  let column := reduced matrix earlier j
  if 0 < column.get j then
    let pivot := Scalar.sqrt (column.get j)
    some (Vector.ofFn fun i =>
      if i < j then 0 else if i = j then pivot else column.get i / pivot)
  else
    none

/-- The first columns of the factor. -/
def firstColumns (matrix : RowMatrix α n n) :
    (count : Nat) → count ≤ n → Option (Vector (Vector α n) count)
  | 0, _ => some #v[]
  | count + 1, within => do
      let earlier ← firstColumns matrix count (Nat.le_of_succ_le within)
      let column ← nextColumn matrix earlier ⟨count, within⟩
      some (earlier.push column)

/-- The factor of a matrix, if every pivot on the way is positive. -/
def ofMatrix (matrix : RowMatrix α n n) : Option (Cholesky α n) :=
  (firstColumns matrix n (Nat.le_refl n)).map Cholesky.mk

variable (factor : Cholesky α n)

/-- The first unknowns of the lower triangular system with right side `right`,
each one substituted into the equations after it. -/
def forward (right : Vector α n) :
    (count : Nat) → count ≤ n → Vector α count
  | 0, _ => #v[]
  | count + 1, within =>
      let earlier := forward right count (Nat.le_of_succ_le within)
      let i : Fin n := ⟨count, within⟩
      let remainder := Fin.foldl count (fun remainder k =>
        -earlier.get k * (factor.columns.get (k.castLE (Nat.le_of_succ_le within))).get i +
          remainder) (right.get i)
      earlier.push (remainder / (factor.columns.get i).get i)

/-- The unknowns of the upper triangular system with right side `right`, from
the one at the head of `indices` on. -/
def backward (right : Vector α n) (indices : List (Fin n)) : List α :=
  indices.foldr (fun i later =>
    let column := factor.columns.get i
    let known := Summation.interleaved
      (List.zipWith (· * ·) (column.toList.drop (i + 1)) later)
    (right.get i - known) / column.get i :: later) []

theorem length_backward (right : Vector α n) (indices : List (Fin n)) :
    (factor.backward right indices).length = indices.length := by
  unfold backward
  induction indices with
  | nil => rfl
  | cons i later induction => simpa using induction

/-- The solution of the linear system with the factored matrix. -/
def solve (right : Vector α n) : Vector α n :=
  let middle := factor.forward right n (Nat.le_refl n)
  ⟨(factor.backward middle (List.finRange n)).toArray, by simp [length_backward]⟩

/-- The inverse of the factored matrix. -/
def inverse : RowMatrix α n n :=
  let unit (j : Fin n) : Vector α n := Vector.ofFn fun i => if i = j then 1 else 0
  RowMatrix.transpose (Vector.ofFn fun j => factor.solve (unit j))

end Cholesky

end CurveFitting
