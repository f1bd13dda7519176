import ChunkCodecs.Fault
import ChunkCodecs.Shape

/-!
# Arrays in memory

A numeric array has elements of one width and a shape. Its elements are stored in
one of two orders: with the last axis running fastest, row by row, or with the first
one, column by column. The order decides which bytes stand where in memory and
nothing else; two arrays are the same if their elements are.

Filling an array with bytes takes them as elements of the array's width in memory
order. An array that is stored column by column, or whose storage is the same in
both orders, is filled column by column; any other one row by row.
-/

namespace ChunkCodecs

namespace Shape

/-- Where the element at a position in row order stands in column order. -/
def columnPosition : Shape → Nat → Nat
  | [], _ => 0
  | extent :: rest, position =>
    position / volume rest + extent * columnPosition rest (position % volume rest)

/-- Where the element at a position in column order stands in row order. -/
def rowPosition : Shape → Nat → Nat
  | [], _ => 0
  | extent :: rest, position => position % extent * volume rest + rowPosition rest (position / extent)

/-- Positions in column order lie inside the array. -/
theorem columnPosition_lt {shape : Shape} {position : Nat} (inside : position < shape.volume) :
    shape.columnPosition position < shape.volume := by
  induction shape generalizing position with
  | nil => simp [columnPosition, volume]
  | cons extent rest inductionHypothesis =>
    simp only [volume] at inside
    have some_rest : 0 < volume rest := Nat.pos_of_ne_zero fun none => by simp [none] at inside
    have head : position / volume rest < extent :=
      Nat.div_lt_of_lt_mul (by rwa [Nat.mul_comm])
    have tail := inductionHypothesis (Nat.mod_lt position some_rest)
    simp only [columnPosition, volume]
    calc position / volume rest + extent * columnPosition rest (position % volume rest)
        < extent + extent * columnPosition rest (position % volume rest) :=
          Nat.add_lt_add_right head _
      _ = extent * (columnPosition rest (position % volume rest) + 1) := by
          rw [Nat.mul_succ, Nat.add_comm]
      _ ≤ extent * volume rest := Nat.mul_le_mul_left _ tail

/-- Going to column order and back leads to the same position. -/
theorem rowPosition_columnPosition {shape : Shape} {position : Nat}
    (inside : position < shape.volume) :
    shape.rowPosition (shape.columnPosition position) = position := by
  induction shape generalizing position with
  | nil => simp only [volume] at inside; simp [rowPosition]; omega
  | cons extent rest inductionHypothesis =>
    simp only [volume] at inside
    have some_rest : 0 < volume rest := Nat.pos_of_ne_zero fun none => by simp [none] at inside
    have head : position / volume rest < extent :=
      Nat.div_lt_of_lt_mul (by rwa [Nat.mul_comm])
    have some_extent : 0 < extent := Nat.lt_of_le_of_lt (Nat.zero_le _) head
    have tail := inductionHypothesis (Nat.mod_lt position some_rest)
    simp only [columnPosition, rowPosition]
    rw [Nat.add_mul_mod_self_left, Nat.mod_eq_of_lt head, Nat.add_mul_div_left _ _ some_extent,
      Nat.div_eq_of_lt head, Nat.zero_add, tail, Nat.mul_comm, Nat.div_add_mod]

/-- Whether both orders are the same for a shape: it has no elements, or at most one
axis along which there is a choice. -/
def isLinear (shape : Shape) : Bool :=
  shape.volume == 0 || (shape.filter (· != 1)).length ≤ 1

end Shape

/-- The order in which elements are stored. -/
inductive StorageOrder where
  /-- The last axis runs fastest. -/
  | rows
  /-- The first axis runs fastest. -/
  | columns
  deriving DecidableEq, Repr

/-- An array of elements of one width. -/
structure NumericArray where
  /-- The bytes of an element. -/
  width : Nat
  /-- The extents. -/
  shape : Shape
  /-- How the elements are stored. -/
  order : StorageOrder
  /-- The elements in row order. -/
  elements : List Bytes
  /-- There are as many elements as the shape has places. -/
  elements_length : elements.length = shape.volume

namespace NumericArray

/-- Elements in another order: the one at a position comes from where a rule says. -/
def reorder (count : Nat) (origin : Nat → Nat) (elements : List Bytes) : List Bytes :=
  let array := elements.toArray
  (List.range count).map fun position => array.getD (origin position) []

/-- A reordering has the expected count. -/
@[simp] theorem length_reorder (count : Nat) (origin : Nat → Nat) (elements : List Bytes) :
    (reorder count origin elements).length = count := by
  simp [reorder]

/-- The elements in the order in which they are stored. -/
def stored (array : NumericArray) : List Bytes :=
  match array.order with
  | .rows => array.elements
  | .columns => reorder array.shape.volume array.shape.rowPosition array.elements

/-- The bytes in memory. -/
def memory (array : NumericArray) : Bytes := array.stored.flatten

/-- The bytes in row order. -/
def content (array : NumericArray) : Bytes := array.elements.flatten

/-- The array of some elements in row order, if they fill the shape. -/
def ofElements (width : Nat) (shape : Shape) (order : StorageOrder) (elements : List Bytes) :
    Except Fault NumericArray :=
  if filled : elements.length = shape.volume then .ok ⟨width, shape, order, elements, filled⟩
  else .error (.foreign (.reshape elements.length shape))

/-- An array whose bytes are all zero. -/
def zeros (width : Nat) (shape : Shape) (order : StorageOrder) : NumericArray :=
  ⟨width, shape, order, List.replicate shape.volume (List.replicate width 0), by simp⟩

/-- Whether the array can be filled column by column. -/
def isColumnOrdered (array : NumericArray) : Bool :=
  array.order == .columns || array.shape.isLinear

/-- The array with its elements taken from bytes. Bytes that do not divide into
elements, or not into as many as there are places, are refused. -/
def fill (array : NumericArray) (bytes : Bytes) : Except Fault NumericArray :=
  if bytes.length % array.width ≠ 0 then .error (.foreign .elementWidth)
  else
    let elements := pieces array.width bytes
    let count := array.shape.volume
    if filled : elements.length = count then
      if array.isColumnOrdered && array.shape ≠ [count] then
        .ok { array with
          elements := reorder count array.shape.columnPosition elements
          elements_length := by simp [count] }
      else .ok { array with elements := elements, elements_length := filled }
    else .error (.foreign (.reshape elements.length array.shape))

end NumericArray

end ChunkCodecs
