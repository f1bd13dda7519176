import ChunkCodecs.Bytes

/-!
# Canonical prefix codes

A set of code lengths determines a code: the code words of each length count
upwards in the order of the symbols, and go on from the shorter ones. The code is
kept as a binary tree whose leaves are symbols; reading a bit goes one step down.
A branch that no code word takes is empty.

The lengths may claim more code words than there are, which is never a code, or
leave some unused. A complete code uses all of them.
-/

namespace ChunkCodecs.Deflate

/-- A prefix code as a tree of decisions. -/
inductive CodeTree where
  /-- No code word leads here. -/
  | empty
  /-- The end of the code word of a symbol. -/
  | leaf (symbol : Nat)
  /-- The next bit decides. -/
  | node (zeroBranch oneBranch : CodeTree)
  deriving DecidableEq, Repr, Inhabited

/-- The longest code word. -/
def maxCodeLength : Nat := 15

/-- How much of all code words of the greatest length the given lengths claim. -/
def claimed (lengths : List Nat) : Nat :=
  lengths.foldl (fun total length =>
    if length = 0 then total else total + 2 ^ (maxCodeLength - length)) 0

/-- How the claims of lengths relate to the code words that there are. -/
def coverage (lengths : List Nat) : Ordering := compare (claimed lengths) (2 ^ maxCodeLength)

namespace CodeTree

/-- Put a symbol at the end of a code word of `length` bits, the most significant
bit first. -/
def insert (symbol : Nat) : (length word : Nat) → CodeTree → CodeTree
  | 0, _, _ => leaf symbol
  | length + 1, word, tree =>
    let (zeroBranch, oneBranch) := match tree with
      | node first second => (first, second)
      | _ => (empty, empty)
    if word / 2 ^ length % 2 = 0 then node (insert symbol length word zeroBranch) oneBranch
    else node zeroBranch (insert symbol length word oneBranch)

/-- The code words that lengths give to symbols: symbol, length and word. -/
def codeWords (lengths : List Nat) : List (Nat × Nat × Nat) :=
  let numbered := lengths.zipIdx
  let ofLength (length : Nat) := numbered.filter fun entry => entry.1 == length
  let step (state : Nat × List (Nat × Nat × Nat)) (length : Nat) :=
    (ofLength length).foldl (fun (next, words) entry =>
      (next + 1, (entry.2, length, next) :: words)) (2 * state.1, state.2)
  ((List.range' 1 maxCodeLength).foldl step (0, [])).2.reverse

/-- The tree of the code that lengths determine. -/
def ofLengths (lengths : List Nat) : CodeTree :=
  (codeWords lengths).foldl (fun tree word => insert word.1 word.2.1 word.2.2 tree) empty

/-- A tree in which the first bit leads to a symbol, whichever bit it is. -/
def either (symbol : Nat) : CodeTree := node (leaf symbol) (leaf symbol)

/-- The code of a set of lengths that is used in full, or that has at most one
code word, of one bit; none otherwise. -/
def ofAlmostComplete? (lengths : List Nat) : Option CodeTree :=
  if lengths.all (· == 0) then some (node empty empty)
  else match coverage lengths with
    | .gt => none
    | .eq => some (ofLengths lengths)
    | .lt => if lengths.all (· ≤ 1) then some (ofLengths lengths) else none

/-- The code of a set of lengths that is used in full; none otherwise. Lengths
that are all zero make every bit stand for symbol zero. -/
def ofComplete? (lengths : List Nat) : Option CodeTree :=
  if lengths.all (· == 0) then some (either 0)
  else if coverage lengths = .eq then some (ofLengths lengths)
  else none

end CodeTree

end ChunkCodecs.Deflate
