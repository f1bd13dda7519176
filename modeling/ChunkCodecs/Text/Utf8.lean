import ChunkCodecs.Bytes
import ChunkCodecs.Text.CharacterCode

/-!
# UTF-8

A character is encoded in one to four bytes. The first byte tells how many bytes are
owed and what range the second one is from; all further ones are from one range.
Decoding refuses the first byte that rules a text out and tells which bytes of an
unfinished character it has taken until then.
-/

namespace ChunkCodecs.Text.Utf8

/-- Why bytes are no text. -/
inductive Defect where
  /-- A byte cannot begin a character. -/
  | badStart
  /-- A byte cannot continue the character that was begun. -/
  | badContinuation
  /-- The bytes end inside a character. -/
  | endOfData
  deriving DecidableEq, Repr

/-- The wording of a defect. -/
def Defect.message : Defect → String
  | badStart => "invalid start byte"
  | badContinuation => "invalid continuation byte"
  | endOfData => "unexpected end of data"

/-- Why and where bytes are no text. -/
structure Failure where
  /-- What is wrong. -/
  defect : Defect
  /-- The bytes before those at fault. -/
  offset : Nat
  /-- The bytes at fault. -/
  faulty : Bytes
  deriving DecidableEq, Repr

/-- A character that was begun. -/
structure Begun where
  /-- The code as far as it is known. -/
  code : Nat
  /-- How many bytes are owed. -/
  owed : Nat
  /-- The least byte that may be next. -/
  least : Nat
  /-- The greatest byte that may be next. -/
  greatest : Nat
  /-- The bytes that were taken. -/
  taken : Bytes

/-- The character that a byte begins. -/
def begin? (byte : UInt8) : Option Begun :=
  let value := byte.toNat
  if value < 0x80 then some ⟨value, 0, 0x80, 0xBF, [byte]⟩
  else if value < 0xC2 then none
  else if value < 0xE0 then some ⟨value - 0xC0, 1, 0x80, 0xBF, [byte]⟩
  else if value = 0xE0 then some ⟨0, 2, 0xA0, 0xBF, [byte]⟩
  else if value = 0xED then some ⟨0xD, 2, 0x80, 0x9F, [byte]⟩
  else if value < 0xF0 then some ⟨value - 0xE0, 2, 0x80, 0xBF, [byte]⟩
  else if value = 0xF0 then some ⟨0, 3, 0x90, 0xBF, [byte]⟩
  else if value < 0xF4 then some ⟨value - 0xF0, 3, 0x80, 0xBF, [byte]⟩
  else if value = 0xF4 then some ⟨4, 3, 0x80, 0x8F, [byte]⟩
  else none

/-- The character that a byte continues. -/
def Begun.continue? (begun : Begun) (byte : UInt8) : Option Begun :=
  if begun.least ≤ byte.toNat && byte.toNat ≤ begun.greatest then
    some ⟨begun.code * 64 + byte.toNat % 64, begun.owed - 1, 0x80, 0xBF, begun.taken ++ [byte]⟩
  else none

/-- The characters of bytes before which there are `offset` others and perhaps an
unfinished character. -/
def decodeFrom (offset : Nat) : (unfinished : Option Begun) → Bytes → Except Failure (List Char)
  | none, [] => .ok []
  | some unfinished, [] =>
    .error ⟨.endOfData, offset - unfinished.taken.length, unfinished.taken⟩
  | none, byte :: rest =>
    match begin? byte with
    | none => .error ⟨.badStart, offset, [byte]⟩
    | some begun =>
      if begun.owed = 0 then (decodeFrom (offset + 1) none rest).map (charOfCode begun.code :: ·)
      else decodeFrom (offset + 1) (some begun) rest
  | some unfinished, byte :: rest =>
    match unfinished.continue? byte with
    | none => .error ⟨.badContinuation, offset - unfinished.taken.length, unfinished.taken⟩
    | some begun =>
      if begun.owed = 0 then (decodeFrom (offset + 1) none rest).map (charOfCode begun.code :: ·)
      else decodeFrom (offset + 1) (some begun) rest

/-- The characters of bytes. -/
def decode (bytes : Bytes) : Except Failure (List Char) := decodeFrom 0 none bytes

/-- The bytes of characters. -/
def encode (characters : List Char) : Bytes := characters.flatMap String.utf8EncodeChar

/-- The wording of a failure. -/
def Failure.message (failure : Failure) : String :=
  let first := failure.offset
  let place := match failure.faulty with
    | [byte] => "byte 0x" ++ String.ofList (hexDigits 2 byte.toNat) ++ s!" in position {first}"
    | several =>
      let last := first + several.length - 1
      s!"bytes in position {first}-{last}"
  "'utf-8' codec can't decode " ++ place ++ ": " ++ failure.defect.message

/-- A character of ASCII is one byte, which gives it back. -/
theorem decode_encode_of_ascii {characters : List Char}
    (ascii : ∀ c ∈ characters, c.toNat < 0x80) : decode (encode characters) = .ok characters := by
  suffices general : ∀ offset, decodeFrom offset none (encode characters) = .ok characters from
    general 0
  induction characters with
  | nil => intro offset; rfl
  | cons c rest inductionHypothesis =>
    intro offset
    have small : c.toNat < 0x80 := ascii c (by simp)
    have single : String.utf8EncodeChar c = [UInt8.ofNat c.toNat] := by
      have bound : c.val.toNat ≤ 127 := Nat.le_of_lt_succ small
      simp only [String.utf8EncodeChar]
      rw [if_pos bound]
      rfl
    have remaining := inductionHypothesis (fun d member => ascii d (by simp [member])) (offset + 1)
    have value : (UInt8.ofNat c.toNat).toNat = c.toNat := by
      simp only [UInt8.toNat_ofNat']
      omega
    simp only [encode] at remaining
    simp [encode, single, decodeFrom, begin?, value, small, remaining, Except.map, charOfCode_toNat]

end ChunkCodecs.Text.Utf8
