/-!
# Line ends

Lines of a text end with a line feed, with a carriage return, or with both. A text
that is read has all of them as line feeds.
-/

namespace ChunkCodecs.Text

/-- The text with every line end as a single line feed. -/
def unifyLineEnds : List Char → List Char
  | '\r' :: '\n' :: rest => '\n' :: unifyLineEnds rest
  | '\r' :: rest => '\n' :: unifyLineEnds rest
  | c :: rest => c :: unifyLineEnds rest
  | [] => []

/-- A text without carriage returns is left as it is. -/
theorem unifyLineEnds_of_not_mem {characters : List Char} (absent : '\r' ∉ characters) :
    unifyLineEnds characters = characters := by
  fun_induction unifyLineEnds characters with
  | case1 => simp at absent
  | case2 => simp at absent
  | case3 c rest _ _ inductionHypothesis => simp_all
  | case4 => rfl

end ChunkCodecs.Text
