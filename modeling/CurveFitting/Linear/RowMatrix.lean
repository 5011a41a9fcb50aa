import CurveFitting.Linear.Summation

/-! # Vectors and matrices

Vectors carry their length and matrices their two dimensions in the type.
Sums, differences and negatives are taken entry by entry.
-/

namespace CurveFitting

/-- A matrix, as the vector of its rows. -/
abbrev RowMatrix (α : Type) (rows columns : Nat) := Vector (Vector α columns) rows

variable {α : Type} [Scalar α] {n rows columns : Nat}

/-- The scalar product, summed in interleaved lanes. -/
def dot (left right : Vector α n) : α :=
  Summation.interleaved (Vector.zipWith (· * ·) left right).toList

def scaleVector (vector : Vector α n) (factor : α) : Vector α n :=
  vector.map (· * factor)

namespace RowMatrix

/-- The matrix whose entry in row `i` and column `j` is `entry i j`. -/
def ofEntries (entry : Fin rows → Fin columns → α) : RowMatrix α rows columns :=
  Vector.ofFn fun i => Vector.ofFn fun j => entry i j

omit [Scalar α] in
theorem get_ofEntries (entry : Fin rows → Fin columns → α) (i : Fin rows) (j : Fin columns) :
    ((ofEntries entry).get i).get j = entry i j := by
  change (Vector.ofFn fun i => Vector.ofFn (entry i))[i.val][j.val] = entry i j
  rw [Vector.getElem_ofFn, Vector.getElem_ofFn]

omit [Scalar α] in
theorem ofEntries_get (matrix : RowMatrix α rows columns) :
    (ofEntries fun i j => (matrix.get i).get j) = matrix := by
  ext i rowWithin j within
  exact get_ofEntries _ ⟨i, rowWithin⟩ ⟨j, within⟩

def diagonal (entries : Vector α n) : RowMatrix α n n :=
  ofEntries fun i j => if i = j then entries.get i else 0

/-- The matrix of all products of an entry of `left` and one of `right`. -/
def outer (left : Vector α rows) (right : Vector α columns) :
    RowMatrix α rows columns :=
  ofEntries fun i j => left.get i * right.get j

def transpose (matrix : RowMatrix α rows columns) : RowMatrix α columns rows :=
  ofEntries fun i j => (matrix.get j).get i

def scale (matrix : RowMatrix α rows columns) (factor : α) :
    RowMatrix α rows columns :=
  matrix.map fun row => scaleVector row factor

theorem get_scale (matrix : RowMatrix α rows columns) (factor : α) (i : Fin rows)
    (j : Fin columns) : ((matrix.scale factor).get i).get j = (matrix.get i).get j * factor := by
  change (matrix.map fun row => row.map (· * factor))[i.val][j.val] = _
  rw [Vector.getElem_map, Vector.getElem_map]
  rfl

/-- The matrix applied to a vector, every row summed from left to right. -/
def mulVector (matrix : RowMatrix α rows columns) (vector : Vector α columns) :
    Vector α rows :=
  matrix.map fun row =>
    Summation.inTurn (Vector.zipWith (· * ·) row vector).toList

def isFinite (matrix : RowMatrix α rows columns) : Bool :=
  matrix.all fun row => row.all Scalar.isFinite

/-- The mean of a square matrix and its transpose. -/
def symmetrize (matrix : RowMatrix α n n) : RowMatrix α n n :=
  scale (matrix + transpose matrix) 0.5

end RowMatrix

end CurveFitting
