import ChunkCodecs.Proofs.Raster.Samples
import ChunkCodecs.Storage.NumericArray

/-!
# Filling arrays

The positions of row order and of column order are taken to each other by two rules that undo one
another, and where both orders are one the rules change nothing. So the bytes that fill an array
are the bytes of its memory then, whatever the type, the shape and the order of the array are;
and the memory of an array fills any other one of its type, shape and order with its elements.
Bytes fill an array exactly if they are as many as its memory has.
-/

namespace ChunkCodecs

namespace Shape

variable {shape : Shape} {position : Nat}

/-- Positions in row order lie inside the array. -/
theorem rowPosition_lt (inside : position < shape.volume) :
    shape.rowPosition position < shape.volume := by
  induction shape generalizing position with
  | nil => exact Nat.zero_lt_one
  | cons extent rest inductionHypothesis =>
    have some_extent : 0 < extent := Nat.pos_of_mul_pos_right (Nat.zero_lt_of_lt inside)
    have tail := inductionHypothesis (Nat.div_lt_of_lt_mul inside)
    exact rowMajor_lt (Nat.mod_lt position some_extent) tail

/-- Going to row order and back leads to the same position. -/
theorem columnPosition_rowPosition (inside : position < shape.volume) :
    shape.columnPosition (shape.rowPosition position) = position := by
  induction shape generalizing position with
  | nil => exact (Nat.lt_one_iff.mp inside).symm
  | cons extent rest inductionHypothesis =>
    have quotient : position / extent < volume rest := Nat.div_lt_of_lt_mul inside
    have tail := rowPosition_lt quotient
    simp only [columnPosition, rowPosition]
    rw [rowMajor_div tail, rowMajor_mod tail, inductionHypothesis quotient, Nat.mod_add_div]

/-- The first element comes first in both orders. -/
theorem columnPosition_zero (shape : Shape) : shape.columnPosition 0 = 0 := by
  induction shape with
  | nil => rfl
  | cons extent rest inductionHypothesis =>
    rw [columnPosition, Nat.zero_div, Nat.zero_mod, inductionHypothesis, Nat.mul_zero]

/-- An array along whose axes there is no choice has one element. -/
theorem volume_of_filter_eq_nil (single : shape.filter (· != 1) = []) : shape.volume = 1 := by
  induction shape with
  | nil => rfl
  | cons extent rest inductionHypothesis =>
    obtain ⟨first, others⟩ := List.forall_mem_cons.mp (List.filter_eq_nil_iff.mp single)
    have one : extent = 1 := by simpa using first
    rw [volume, one, inductionHypothesis (List.filter_eq_nil_iff.mpr others)]

/-- Where at most one axis gives a choice, column order is row order.

Proof: an axis without a choice in front changes nothing. Behind an axis with a choice there is a
single element, so the position along this axis is the whole position. -/
theorem columnPosition_of_isLinear (linear : shape.isLinear = true)
    (inside : position < shape.volume) : shape.columnPosition position = position := by
  have some_element : shape.volume ≠ 0 := Nat.ne_zero_of_lt inside
  simp only [isLinear, Bool.or_eq_true, beq_iff_eq, some_element, false_or,
    decide_eq_true_eq] at linear
  induction shape with
  | nil => exact (Nat.lt_one_iff.mp inside).symm
  | cons extent rest inductionHypothesis =>
    by_cases one : extent = 1
    · rw [one, volume, Nat.one_mul] at inside
      have fewer : (rest.filter (· != 1)).length ≤ 1 := by simpa [one] using linear
      rw [columnPosition, Nat.div_eq_of_lt inside, Nat.mod_eq_of_lt inside, one, Nat.one_mul,
        Nat.zero_add]
      exact inductionHypothesis inside (Nat.ne_zero_of_lt inside) fewer
    · have no_other : rest.filter (· != 1) = [] := by simpa [one] using linear
      rw [columnPosition, volume_of_filter_eq_nil no_other, Nat.div_one, Nat.mod_one,
        columnPosition_zero, Nat.mul_zero, Nat.add_zero]

/-- Where at most one axis gives a choice, row order is column order. -/
theorem rowPosition_of_isLinear (linear : shape.isLinear = true)
    (inside : position < shape.volume) : shape.rowPosition position = position := by
  have back := rowPosition_columnPosition inside
  rwa [columnPosition_of_isLinear linear inside] at back

/-- One axis gives no choice. -/
theorem isLinear_single (extent : Nat) : isLinear [extent] = true := by
  have short : ([extent].filter (· != 1)).length ≤ 1 := List.length_filter_le _ _
  rw [isLinear, decide_eq_true short, Bool.or_true]

end Shape

namespace NumericArray

variable {count : Nat} {origin back : Nat → Nat} {elements : List Bytes}

/-- A reordered element comes from where the rule says. -/
theorem getElem?_reorder {position : Nat} (inside : position < count)
    (there : origin position < elements.length) :
    (reorder count origin elements)[position]? = elements[origin position]? := by
  simp [reorder, inside, there]

/-- Elements that are reordered by one rule and then by another one which undoes it are in their
first order again. -/
theorem reorder_reorder (filled : elements.length = count)
    (within : ∀ position < count, back position < count)
    (undone : ∀ position < count, origin (back position) = position) :
    reorder count back (reorder count origin elements) = elements := by
  apply List.ext_getElem?
  intro position
  by_cases inside : position < count
  · have there := within position inside
    have place := undone position inside
    rw [getElem?_reorder inside (by rwa [length_reorder]), getElem?_reorder there, place]
    rwa [place, filled]
  · rw [List.getElem?_eq_none, List.getElem?_eq_none]
    · rw [filled]
      exact Nat.le_of_not_lt inside
    · rw [length_reorder]
      exact Nat.le_of_not_lt inside

/-- A rule that leaves every position where it is leaves the elements in their order. -/
theorem reorder_eq_self (filled : elements.length = count)
    (fixed : ∀ position < count, origin position = position) :
    reorder count origin elements = elements := by
  apply List.ext_getElem?
  intro position
  by_cases inside : position < count
  · have same := fixed position inside
    rw [getElem?_reorder inside (by rwa [same, filled]), same]
  · rw [List.getElem?_eq_none, List.getElem?_eq_none]
    · rw [filled]
      exact Nat.le_of_not_lt inside
    · rw [length_reorder]
      exact Nat.le_of_not_lt inside

/-- An array of some type: every element has its width, which is at least a byte. -/
structure IsUniform (array : NumericArray) : Prop where
  /-- An element has some bytes. -/
  width_pos : 0 < array.width
  /-- Every element has the width. -/
  length_eq : ∀ element ∈ array.elements, element.length = array.width

/-- Two arrays have one type, one shape and one order. -/
structure SameLayout (left right : NumericArray) : Prop where
  /-- The elements have one width. -/
  width_eq : left.width = right.width
  /-- The shapes are the same. -/
  shape_eq : left.shape = right.shape
  /-- The elements are stored in one order. -/
  order_eq : left.order = right.order

/-- The layout of an array is the same as that of a third one through a second one. -/
theorem SameLayout.trans {left middle right : NumericArray} (first : left.SameLayout middle)
    (second : middle.SameLayout right) : left.SameLayout right where
  width_eq := first.width_eq.trans second.width_eq
  shape_eq := first.shape_eq.trans second.shape_eq
  order_eq := first.order_eq.trans second.order_eq

/-- The bytes that the memory of an array has. -/
def size (array : NumericArray) : Nat := array.shape.volume * array.width

variable {array out : NumericArray} {bytes : Bytes}

/-- An array that can be filled column by column is stored column by column. -/
theorem stored_of_isColumnOrdered (columns : array.isColumnOrdered = true) :
    array.stored = reorder array.shape.volume array.shape.rowPosition array.elements := by
  cases ordered : array.order with
  | columns => rw [stored, ordered]
  | rows =>
    have linear : array.shape.isLinear = true := by
      simpa [isColumnOrdered, ordered] using columns
    rw [stored, ordered, reorder_eq_self array.elements_length fun _ inside =>
      Shape.rowPosition_of_isLinear linear inside]

/-- An array whose storage is the same in both orders is stored row by row. -/
theorem stored_of_isLinear (linear : array.shape.isLinear = true) :
    array.stored = array.elements := by
  have columns : array.isColumnOrdered = true := by rw [isColumnOrdered, linear, Bool.or_true]
  rw [stored_of_isColumnOrdered columns, reorder_eq_self array.elements_length fun _ inside =>
    Shape.rowPosition_of_isLinear linear inside]

/-- An array that cannot be filled column by column is stored row by row. -/
theorem stored_of_not_isColumnOrdered (rows : array.isColumnOrdered = false) :
    array.stored = array.elements := by
  have ordered : array.order = .rows := by
    cases ordered : array.order with
    | rows => rfl
    | columns => simp [isColumnOrdered, ordered] at rows
  rw [stored, ordered]

/-- The stored elements of an array are its elements, in some order. -/
theorem mem_elements_of_mem_stored {element : Bytes} (member : element ∈ array.stored) :
    element ∈ array.elements := by
  cases columns : array.isColumnOrdered with
  | false => rwa [stored_of_not_isColumnOrdered columns] at member
  | true =>
    rw [stored_of_isColumnOrdered columns] at member
    obtain ⟨position, there⟩ := List.mem_iff_getElem?.mp member
    have inside : position < array.shape.volume := by
      rw [← length_reorder array.shape.volume array.shape.rowPosition array.elements]
      exact (List.getElem?_eq_some_iff.mp there).1
    have within := array.elements_length ▸ Shape.rowPosition_lt inside
    rw [getElem?_reorder inside within] at there
    exact List.mem_of_getElem? there

/-- There are as many stored elements as places. -/
theorem length_stored (array : NumericArray) : array.stored.length = array.shape.volume := by
  rw [stored]
  split
  · exact array.elements_length
  · exact length_reorder _ _ _

/-- The memory of an array divides into its stored elements. -/
theorem IsUniform.pieces_memory (uniform : array.IsUniform) :
    pieces array.width array.memory = array.stored :=
  pieces_flatten uniform.width_pos fun element member =>
    uniform.length_eq element (mem_elements_of_mem_stored member)

/-- The memory of an array is of its size. -/
theorem IsUniform.length_memory (uniform : array.IsUniform) :
    array.memory.length = array.size := by
  have each : ∀ element ∈ array.stored, element.length = array.width :=
    fun element member => uniform.length_eq element (mem_elements_of_mem_stored member)
  rw [memory, List.length_flatten, List.map_congr_left each, List.map_const', List.sum_replicate,
    length_stored, smul_eq_mul, size]

/-- Arrays of one layout that store the same are the same. -/
theorem SameLayout.eq_of_stored (same : out.SameLayout array) (alike : out.stored = array.stored) :
    out = array := by
  have elements_of_stored (array : NumericArray) : array.elements =
      if array.isColumnOrdered then
        reorder array.shape.volume array.shape.columnPosition array.stored
      else array.stored := by
    cases columns : array.isColumnOrdered with
    | false => exact (stored_of_not_isColumnOrdered columns).symm
    | true =>
      rw [if_pos rfl, stored_of_isColumnOrdered columns]
      exact (reorder_reorder array.elements_length (fun _ => Shape.columnPosition_lt)
        fun _ => Shape.rowPosition_columnPosition).symm
  have columns : out.isColumnOrdered = array.isColumnOrdered := by
    rw [isColumnOrdered, isColumnOrdered, same.order_eq, same.shape_eq]
  have elements : out.elements = array.elements := by
    rw [elements_of_stored out, elements_of_stored array, columns, same.shape_eq, alike]
  obtain ⟨width, shape, order⟩ := same
  cases out
  cases array
  simp only [mk.injEq]
  exact ⟨width, shape, order, elements⟩

/-- Bytes as many as the memory of an array has fill it: their pieces are stored then, and the
layout is what it was.

Proof: what is put in column order is stored column by column, so storing undoes the order; and
where the order is left alone it is the same in storage. -/
theorem fill_of_size (positive : 0 < array.width) (enough : bytes.length = array.size) :
    ∃ filled, array.fill bytes = .ok filled ∧ filled.SameLayout array ∧
      filled.stored = pieces array.width bytes := by
  have divides : ¬ bytes.length % array.width ≠ 0 := by
    rw [enough, size, Nat.mul_mod_left]
    exact not_not.mpr rfl
  have count : (pieces array.width bytes).length = array.shape.volume :=
    length_pieces positive enough
  rw [fill, if_neg divides]
  simp only [count, dite_true]
  split
  · next columns =>
    refine ⟨_, rfl, ⟨rfl, rfl, rfl⟩, ?_⟩
    have ordered := (Bool.and_eq_true _ _ ▸ columns).1
    refine (stored_of_isColumnOrdered ?columns).trans ?undone
    case columns => exact ordered
    case undone =>
      exact reorder_reorder count (fun _ => Shape.rowPosition_lt)
        fun _ => Shape.columnPosition_rowPosition
  · next plain =>
    refine ⟨_, rfl, ⟨rfl, rfl, rfl⟩, ?_⟩
    cases columns : array.isColumnOrdered with
    | false => exact stored_of_not_isColumnOrdered columns
    | true =>
      have single : array.shape = [array.shape.volume] := by simpa [columns] using plain
      apply stored_of_isLinear
      show array.shape.isLinear = true
      rw [single]
      exact Shape.isLinear_single _

/-- Bytes more or fewer than the memory of an array has are refused. -/
theorem fill_of_other_size (positive : 0 < array.width) (other : bytes.length ≠ array.size) :
    ∃ cause, array.fill bytes = .error (.foreign cause) := by
  rw [fill]
  split
  · exact ⟨_, rfl⟩
  · next divides =>
    have whole : bytes.length = bytes.length / array.width * array.width :=
      (Nat.div_mul_cancel (Nat.dvd_of_mod_eq_zero (not_not.mp divides))).symm
    have count := length_pieces positive whole
    have unfilled : (pieces array.width bytes).length ≠ array.shape.volume := by
      intro filled
      rw [count] at filled
      exact other (whole.trans (by rw [filled, size]))
    rw [dif_neg unfilled]
    exact ⟨_, rfl⟩

end NumericArray

end ChunkCodecs
