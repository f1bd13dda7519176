import Mathlib
import ChunkCodecs.Blosc.Standard
import ChunkCodecs.Proofs.Blosc.Framing

/-!
# The decoder accepts what the encoder emits

A library may return any buffer for a content: too short, too long, with a header that
declares anything. Nothing is assumed of it here. If the encoder accepts the buffer,
then what it writes is a frame of the content's size, and the decoder finds no fault
with this frame: it gets as far as the library, and asks it once, for exactly this
frame in a destination of exactly the content's size, or not at all if there is no
content.

To see what the library is asked, the decoder is run in a setting that records the
requests. Recording changes nothing else.
-/

namespace ChunkCodecs.Blosc

/-- What a library is asked: to take a frame apart into a destination of a size. -/
structure Request where
  /-- The frame. -/
  frame : Bytes
  /-- The size of the destination. -/
  size : Nat
  deriving DecidableEq, Repr

/-- Ask a library, and record what it is asked. -/
def askRecorded : Asking (StateM (List Request)) := fun library frame size => do
  modify fun requests => requests ++ [⟨frame, size⟩]
  return library.decompress frame size

/-- Take one frame from a source, with the requests that are made of the library. -/
def uncompressRecorded (library : Option Library) (source : Source) : Transfer × List Request :=
  (uncompressIn askRecorded library source).run []

/-- What is asked of a library for the content of a frame: nothing if there is none,
else the frame with the size of its content. -/
def requestsFor (frame : Bytes) (size : Nat) : List Request :=
  if size = 0 then [] else [⟨frame, size⟩]

/-- Recording the requests for the content of a frame does not change the content. -/
theorem decodeIn_askRecorded (library : Library) (frame : Bytes) (size : Nat)
    (earlier : List Request) :
    (library.decodeIn askRecorded frame size).run earlier =
      (library.decodeIn (m := Id) Library.decompress frame size,
        earlier ++ requestsFor frame size) := by
  by_cases empty : size = 0
  · simp only [Library.decodeIn, empty, requestsFor, if_true, List.append_nil]
    rfl
  · simp only [Library.decodeIn, empty, requestsFor, if_false]
    cases given : library.decompress frame size <;>
      simp [askRecorded, given, modify, modifyGet, MonadStateOf.modifyGet] <;> rfl

/-- Recording the requests changes nothing that comes of taking a frame. -/
theorem uncompressRecorded_fst (library : Option Library) (source : Source) :
    (uncompressRecorded library source).1 = uncompress library source := by
  unfold uncompressRecorded uncompress uncompressIn uncompressToldIn Library.takeToldIn
  split
  · rfl
  · split
    · rfl
    · split
      · rfl
      · split
        · rfl
        · split
          · rfl
          · simp [decodeIn_askRecorded]
            rfl

/-- A library that does not take a frame apart is at fault itself: neither is the input
said to have ended early nor its bytes to be malformed. -/
theorem not_input_fault_of_decodeIn {library : Library} {frame : Bytes} {size : Nat} {fault : Fault}
    (refused : library.decodeIn (m := Id) Library.decompress frame size = .error fault) :
    (∀ cause, fault ≠ .truncated cause) ∧ ∀ cause, fault ≠ .malformed cause := by
  by_cases empty : size = 0
  · simp only [Library.decodeIn, empty, if_true] at refused
    cases refused
  · simp only [Library.decodeIn, empty, if_false] at refused
    cases given : library.decompress frame size with
    | ok content =>
      rw [given] at refused
      cases refused
    | error alarm =>
      rw [given] at refused
      obtain rfl : alarm.toFault .decompression = fault := Except.error.inj refused
      cases alarm <;> simp [Alarm.toFault]

/-- Whatever a library returns for a content, the frame that the encoder makes of it is
accepted. It has between sixteen bytes and sixteen more than the content; its header is
read, declares the frame's own size and the content's, and the content is within the
limit of the format; and it is the front of what the library returned. Taking it from
any source that begins with it never blames the input: an empty content is given at
once, and for any other the library is asked exactly once, for this frame and a
destination of the content's size. -/
theorem compress_frame_accepted {library : Library} (fixed : library.frameSizes? = none)
    {settings : Settings} {source : Source} {frame : Bytes}
    (made : (compress (some library) settings source).result = .ok frame) :
    (headerSize ≤ frame.length ∧ frame.length ≤ source.rest.length + headerSize) ∧
      (∃ header, Header.ofBytes frame = .ok header ∧ header.frameSize.toNat = frame.length ∧
        header.contentSize.toNat = source.rest.length) ∧
      source.rest.length ≤ maxContentSize ∧
      (∃ buffer, library.compress settings source.rest = .ok buffer ∧ frame <+: buffer) ∧
      ∀ reader : Source, frame <+: reader.rest →
        (∀ fault, (uncompress (some library) reader).failure = some fault →
          (∀ cause, fault ≠ .truncated cause) ∧ ∀ cause, fault ≠ .malformed cause) ∧
        (source.rest = [] → (uncompress (some library) reader).failure = none ∧
          (uncompress (some library) reader).written = []) ∧
        (uncompressRecorded (some library) reader).1 = uncompress (some library) reader ∧
        (uncompressRecorded (some library) reader).2 =
          if source.rest = [] then [] else [⟨frame, source.rest.length⟩] := by
  obtain ⟨⟨journal, usable⟩, encoded⟩ := usable_and_encode_of_compress made
  obtain ⟨header, buffer, framed, declared, bound, returned, _, cut⟩ := encode_isFrame fixed encoded
  refine ⟨⟨framed.headerSize_le, bound⟩, ⟨header, framed.ofBytes, framed.whole, declared⟩, ?_,
    ⟨buffer, returned, ?_⟩, ?_⟩
  · rw [← declared]
    exact framed.content_le
  · rw [cut]
    exact List.take_prefix _ buffer
  · rintro reader ⟨tail, held⟩
    obtain ⟨ended, _, _, taken⟩ :=
      uncompressIn_frame (m := Id) Library.decompress usable (framed.delimits fixed) held.symm
    obtain ⟨observed, _, _, recorded⟩ :=
      uncompressIn_frame askRecorded usable (framed.delimits fixed) held.symm
    have outcome : uncompress (some library) reader =
        .conclude ended journal
          (library.decodeIn (m := Id) Library.decompress frame source.rest.length) := by
      rw [← declared]
      exact taken
    have requests : (uncompressRecorded (some library) reader).2 =
        requestsFor frame source.rest.length := by
      rw [uncompressRecorded, recorded, ← declared]
      simp only [StateT.run_map, decodeIn_askRecorded, List.nil_append]
      rfl
    refine ⟨?_, ?_, uncompressRecorded_fst (some library) reader, ?_⟩
    · intro fault failed
      rw [outcome] at failed
      cases given : library.decodeIn (m := Id) Library.decompress frame source.rest.length with
      | ok content =>
        rw [given] at failed
        cases failed
      | error cause =>
        rw [given] at failed
        exact Option.some.inj failed ▸ not_input_fault_of_decodeIn given
    · intro empty
      rw [outcome, empty]
      exact ⟨rfl, rfl⟩
    · rw [requests, requestsFor]
      simp only [List.length_eq_zero_iff]

/-- A library that returns more than a frame, and takes no frame apart. -/
def Library.careless : Library where
  lacking := []
  overhead := headerSize
  version := "0"
  compressors := []
  frameSizes? := none
  compress := fun settings content => .ok (pack settings content ++ [0xFF, 0xFF])
  decompress := fun _ _ => .error (.reported "careless")

/-- Two bytes are made into a frame of eighteen bytes, though the buffer has twenty, and
the library is asked for the content of these eighteen bytes. -/
theorem careless_frame_accepted :
    ∃ frame, (compress (some .careless) .standard (.ofBytes [1, 2])).result = .ok frame ∧
      frame.length = 18 ∧
      (uncompressRecorded (some .careless) (.limited (frame ++ [7]) 5)).2 = [⟨frame, 2⟩] := by
  have made : (compress (some .careless) .standard (.ofBytes [1, 2])).result =
      .ok ((pack .standard [1, 2]).take 18) := rfl
  obtain ⟨_, _, _, _, accepted⟩ := compress_frame_accepted rfl made
  obtain ⟨_, _, _, requests⟩ := accepted (.limited ((pack .standard [1, 2]).take 18 ++ [7]) 5)
    (List.prefix_append _ _)
  exact ⟨_, made, rfl, requests⟩

end ChunkCodecs.Blosc
