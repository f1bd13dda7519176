/-!
# Transposition

A matrix is listed row by row. Its transpose lists the same elements column by
column. Transposing twice, with rows and columns exchanged, gives the matrix back;
so does going from one order of the axes of an image to another and back.
-/

namespace ChunkCodecs

/-- Where a matrix with the given rows and columns has the element that stands at a
position of its transpose. -/
def transposedPosition (rows columns position : Nat) : Nat :=
  position % rows * columns + position / rows

/-- The transpose of a matrix with the given rows and columns. -/
def transpose {α : Type} [Inhabited α] (rows columns : Nat) (elements : List α) : List α :=
  let array := elements.toArray
  (List.range (rows * columns)).map fun position =>
    array.getD (transposedPosition rows columns position) default

/-- The transpose has as many elements as the matrix has places. -/
@[simp] theorem length_transpose {α : Type} [Inhabited α] (rows columns : Nat) (elements : List α) :
    (transpose rows columns elements).length = rows * columns := by
  simp [transpose]

/-- A position of the transpose comes from a position of the matrix. -/
theorem transposedPosition_lt {rows columns position : Nat} (inside : position < rows * columns) :
    transposedPosition rows columns position < rows * columns := by
  have some_rows : 0 < rows := Nat.pos_of_ne_zero fun none => by simp [none] at inside
  have row : position % rows < rows := Nat.mod_lt _ some_rows
  have column : position / rows < columns := Nat.div_lt_of_lt_mul inside
  calc position % rows * columns + position / rows
      < position % rows * columns + columns := Nat.add_lt_add_left column _
    _ = (position % rows + 1) * columns := (Nat.succ_mul _ _).symm
    _ ≤ rows * columns := Nat.mul_le_mul_right _ row

/-- Transposing positions twice leads back. -/
theorem transposedPosition_transposedPosition {rows columns position : Nat}
    (inside : position < rows * columns) :
    transposedPosition columns rows (transposedPosition rows columns position) = position := by
  have some_rows : 0 < rows := Nat.pos_of_ne_zero fun none => by simp [none] at inside
  have column : position / rows < columns := Nat.div_lt_of_lt_mul inside
  have some_columns : 0 < columns := Nat.lt_of_le_of_lt (Nat.zero_le _) column
  have remainder : transposedPosition rows columns position % columns = position / rows := by
    rw [transposedPosition, Nat.add_comm, Nat.add_mul_mod_self_right, Nat.mod_eq_of_lt column]
  have quotient : transposedPosition rows columns position / columns = position % rows := by
    rw [transposedPosition, Nat.add_comm, Nat.add_mul_div_right _ _ some_columns,
      Nat.div_eq_of_lt column, Nat.zero_add]
  rw [transposedPosition, remainder, quotient, Nat.mul_comm, Nat.div_add_mod]

end ChunkCodecs
