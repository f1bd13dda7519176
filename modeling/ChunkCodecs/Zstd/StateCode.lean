import ChunkCodecs.Zstd.BackwardBits

/-!
# Codes of finite state

A code of finite state has a power of two of states. Each state stands for a
symbol, and tells how many bits lead to the next state and which state those bits
are added to. The share of states that a symbol has is its weight; a weight of
minus one is that of a symbol too rare for a share, which has one state of full
width.

The states of a symbol, in ascending order, divide all states evenly among
themselves, so that from every state of a symbol some state leads to any state
that is to follow. That is what an encoder relies on.
-/

namespace ChunkCodecs.Zstd

/-- A state of a code. -/
structure State where
  /-- The symbol that the state stands for. -/
  symbol : Nat
  /-- How many bits lead to the next state. -/
  width : Nat
  /-- The next state, if those bits are zero. -/
  base : Nat
  deriving Inhabited, DecidableEq, Repr

/-- A code of finite state. -/
structure StateCode where
  /-- The states are two to this power. -/
  accuracy : Nat
  /-- The states. -/
  states : Array State
  deriving Inhabited, DecidableEq, Repr

namespace StateCode

/-- The code that has one state and no bits. -/
def constant (symbol : Nat) : StateCode := ⟨0, #[⟨symbol, 0, 0⟩]⟩

/-- How many states a weight claims. -/
def stateCount (weight : Int) : Nat := weight.natAbs

/-- The symbols of the states, place by place: rare symbols take the last places
one by one, the others are spread in strides over the rest. -/
def spread (accuracy : Nat) (weights : List Int) : Array Nat :=
  let size := 2 ^ accuracy
  let numbered := weights.zipIdx
  let (places, ceiling) := numbered.foldl (fun (places, ceiling) (weight, symbol) =>
    if weight = -1 then (places.set! (ceiling - 1) symbol, ceiling - 1) else (places, ceiling))
    (Array.replicate size 0, size)
  let stride := size / 2 + size / 8 + 3
  let advance (place : Nat) : Nat :=
    (List.range size).foldl (fun (found : Nat) _ =>
      if found < ceiling then found else (found + stride) % size) ((place + stride) % size)
  (numbered.foldl (fun state (weight, symbol) =>
    if weight ≤ 0 then state
    else (List.range weight.toNat).foldl (fun (places, place) _ =>
      (places.set! place symbol, advance place)) state) (places, 0)).1

/-- The states over places with known symbols: the states of a symbol are numbered
on from its weight, and the number decides the width. -/
def number (accuracy : Nat) (weights : List Int) (places : Array Nat) : Array State :=
  (places.foldl (fun (states, next) symbol =>
    let ordinal := next.getD symbol 1
    let width := accuracy - ordinal.log2
    (states.push ⟨symbol, width, ordinal * 2 ^ width - 2 ^ accuracy⟩, next.set! symbol (ordinal + 1)))
    ((#[] : Array State), (weights.map stateCount).toArray)).1

/-- The code of given weights, which have to fill the states. -/
def ofWeights (accuracy : Nat) (weights : List Int) : StateCode :=
  ⟨accuracy, number accuracy weights (spread accuracy weights)⟩

/-- One weight of a description that starts at a bit, where `remaining` states are
not claimed yet, and the bit after it. The smaller values are a bit shorter. -/
def readWeight (bytes : Array UInt8) (remaining place : Nat) : Int × Nat :=
  let width := (remaining + 1).log2 + 1
  let value := bitsAt bytes place width
  let half := 2 ^ (width - 1)
  let spare := 2 * half - 2 - remaining
  if value % half < spare then ((value % half : Nat) - 1, place + width - 1)
  else if half ≤ value then ((value - spare : Nat) - 1, place + width)
  else ((value : Nat) - 1, place + width)

/-- How many further symbols have no weight, two bits at a time, three calling for
more; and the bit after that. -/
def readGap (bytes : Array UInt8) : (fuel place : Nat) → Nat × Nat
  | 0, place => (0, place)
  | fuel + 1, place =>
    let count := bitsAt bytes place 2
    if count = 3 then
      let (more, next) := readGap bytes fuel (place + 2)
      (3 + more, next)
    else (count, place + 2)

/-- The weights of a description from a bit on, the last one first, and the bit
after it. -/
def readWeights (bytes : Array UInt8) (maxSymbols : Nat) :
    (fuel remaining place : Nat) → (weights : List Int) → Option (List Int × Nat)
  | 0, _, _, _ => none
  | fuel + 1, remaining, place, weights =>
    if remaining = 0 then
      if weights.length ≤ maxSymbols then some (weights.reverse, place) else none
    else if maxSymbols ≤ weights.length || 8 * bytes.size < place then none
    else
      let (weight, next) := readWeight bytes remaining place
      let left := remaining - stateCount weight
      if weight = 0 then
        let (gap, after) := readGap bytes (4 * bytes.size + 1) next
        readWeights bytes maxSymbols fuel left after (List.replicate (gap + 1) 0 ++ weights)
      else readWeights bytes maxSymbols fuel left next (weight :: weights)

/-- The code that a byte string describes at its start, with how many bytes the
description takes. -/
def read? (bytes : Array UInt8) (maxAccuracy maxSymbols : Nat) : Option (StateCode × Nat) := do
  let accuracy := bitsAt bytes 0 4 + 5
  if maxAccuracy < accuracy then none
  else
    let (weights, stop) ← readWeights bytes maxSymbols (maxSymbols + 2) (2 ^ accuracy) 4 []
    let taken := (stop + 7) / 8
    if bytes.size < taken then none else return (ofWeights accuracy weights, taken)

/-- The state of a number. -/
def stateAt (code : StateCode) (number : Nat) : State := code.states.getD number default

/-- A state that stands for a symbol and from which a state can follow, with the
bits that lead there. -/
def precede? (code : StateCode) (symbol following : Nat) : Option (Nat × Nat × Nat) :=
  let leads (state : State) : Bool :=
    state.symbol == symbol && state.base ≤ following && following < state.base + 2 ^ state.width
  (code.states.findIdx? leads).map fun found =>
    let state := code.stateAt found
    (found, following - state.base, state.width)

/-- A state that stands for a symbol. -/
def anyState? (code : StateCode) (symbol : Nat) : Option Nat :=
  code.states.findIdx? fun state => state.symbol == symbol

end StateCode

end ChunkCodecs.Zstd
