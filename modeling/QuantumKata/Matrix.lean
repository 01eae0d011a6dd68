import QuantumKata.Amplitude

/-!
# Matrices of amplitudes

A gate acts by a square matrix.  Matrices that arrive from outside may have any shape, so they come
as a `Tensor`: a list of sizes with the entries in row order.  A tensor of shape `(d, d)` is a
square matrix.

The inverse is computed by elimination with row exchanges.  Every step replaces rows of the matrix
by combinations of rows and does the same to the rows of a second matrix that starts as the
identity, so at each moment the second matrix times the given one is the first matrix; when the
first has become diagonal, dividing by the diagonal turns the second into the inverse.
-/

namespace QuantumKata

/-- Entries arranged in any number of directions, in row order. -/
structure Tensor (R : Type) where
  shape : List Nat
  entries : Array (Amplitude R)

/-- A square matrix. -/
structure SquareMatrix (R : Type) where
  size : Nat
  rows : Vector (Vector (Amplitude R) size) size

namespace SquareMatrix

variable {R : Type} [Scalar R]

/-- The matrix with the given entries. -/
def ofEntries (size : Nat) (value : Nat → Nat → Amplitude R) : SquareMatrix R :=
  ⟨size, Vector.ofFn fun row => Vector.ofFn fun column => value row column⟩

/-- The entry in a row and a column; zero outside the matrix. -/
def entry (matrix : SquareMatrix R) (row column : Nat) : Amplitude R :=
  if inRows : row < matrix.size then
    if inColumns : column < matrix.size then matrix.rows[row][column] else 0
  else 0

/-- The two-by-two matrix with the given rows. -/
def ofRows (first second third fourth : Amplitude R) : SquareMatrix R :=
  ⟨2, #v[#v[first, second], #v[third, fourth]]⟩

/-- The identity matrix. -/
def identity (size : Nat) : SquareMatrix R :=
  ofEntries size fun row column => if row = column then 1 else 0

/-- The conjugate transpose. -/
def adjoint (matrix : SquareMatrix R) : SquareMatrix R :=
  ofEntries matrix.size fun row column => (matrix.entry column row).conj

/-- The product of two matrices. -/
def multiply (left right : SquareMatrix R) : SquareMatrix R :=
  ofEntries left.size fun row column =>
    Amplitude.sum ((List.range left.size).map fun middle =>
      left.entry row middle * right.entry middle column)

/-- The shape of a square matrix. -/
def shape (matrix : SquareMatrix R) : List Nat := [matrix.size, matrix.size]

/-- Whether two complex numbers differ by at most the tolerance, a small part of the second number
added.  A number that is not finite is not close to any that is. -/
def isClose (tolerance : R) (left right : Amplitude R) : Bool :=
  Scalar.isFinite left.re && Scalar.isFinite left.im &&
    Scalar.atMost (left - right).magnitude (tolerance + Scalar.decimal 1 5 * right.magnitude)

/-- Whether the columns are orthonormal up to the tolerance, entry by entry. -/
def isUnitary (matrix : SquareMatrix R) (tolerance : R) : Bool :=
  let product := matrix.adjoint.multiply matrix
  (List.range matrix.size).all fun row =>
    (List.range matrix.size).all fun column =>
      isClose tolerance (product.entry row column) (if row = column then 1 else 0)

/-! ## Elimination -/

/-- A row of the matrix beside the row of the second matrix. -/
structure PairedRow (R : Type) (size : Nat) where
  left : Vector (Amplitude R) size
  right : Vector (Amplitude R) size

namespace PairedRow

variable {size : Nat}

/-- Subtract a multiple of another row. -/
def reduceBy (row : PairedRow R size) (factor : Amplitude R) (pivot : PairedRow R size) :
    PairedRow R size where
  left := Vector.ofFn fun column => row.left[column] - factor * pivot.left[column]
  right := Vector.ofFn fun column => row.right[column] - factor * pivot.right[column]

end PairedRow

/-- The weight by which a pivot is chosen: the sum of the magnitudes of both parts. -/
def pivotWeight (number : Amplitude R) : R :=
  Scalar.magnitude number.re + Scalar.magnitude number.im

/-- The first of the rows from `column` on that has the greatest weight in that column. -/
def pivotRow {size : Nat} (rows : Vector (PairedRow R size) size) (column : Fin size) : Fin size :=
  (List.finRange size).foldl
    (fun best row =>
      if column < row &&
          Scalar.less (pivotWeight rows[best].left[column]) (pivotWeight rows[row].left[column])
      then row else best)
    column

/-- Clear one column in all rows but its own; fails when no row can serve as the pivot. -/
def clearColumn? {size : Nat} (rows : Vector (PairedRow R size) size) (column : Fin size) :
    Option (Vector (PairedRow R size) size) :=
  let chosen := pivotRow rows column
  let exchanged := rows.swap column chosen
  let pivot := exchanged[column]
  if Scalar.atMost (pivotWeight pivot.left[column]) 0 then none
  else
    let scale := pivot.left[column].reciprocal
    some <| Vector.ofFn fun row =>
      if row = column then pivot
      else exchanged[row].reduceBy (exchanged[row].left[column] * scale) pivot

/-- The inverse matrix, unless the matrix is singular. -/
def inverse? (matrix : SquareMatrix R) : Option (SquareMatrix R) :=
  let start : Vector (PairedRow R matrix.size) matrix.size :=
    Vector.ofFn fun row =>
      ⟨matrix.rows[row], Vector.ofFn fun column => if row = column then 1 else 0⟩
  ((List.finRange matrix.size).foldlM clearColumn? start).map fun rows =>
    ⟨matrix.size, Vector.ofFn fun row => Vector.ofFn fun column =>
      rows[row].right[column] * rows[row].left[row].reciprocal⟩

end SquareMatrix

namespace Tensor

variable {R : Type} [Scalar R]

/-- The square matrix that a tensor of shape `(size, size)` holds. -/
def square? (tensor : Tensor R) : Option (SquareMatrix R) :=
  match tensor.shape with
  | [height, width] =>
    if height = width then
      some (SquareMatrix.ofEntries height fun row column =>
        tensor.entries.getD (row * width + column) 0)
    else none
  | _ => none

/-- The entries of a square matrix as a tensor. -/
def ofMatrix (matrix : SquareMatrix R) : Tensor R where
  shape := matrix.shape
  entries := (matrix.rows.toArray.map Vector.toArray).flatten

end Tensor

end QuantumKata
