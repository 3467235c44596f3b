import LineCalc.Text.Lines
import LineCalc.Text.Utf8

/-!
# Text streams

The bytes of a file are decoded in chunks, and its text is given in parts of a fixed
number of characters.  So an error in the bytes comes after the parts before it, and its
position is counted from the beginning of its chunk.

What may go on in the next chunk is held back: the first bytes of a character, and a
carriage return, behind which a line feed may stand.

`parts` gives the parts of a text, up to the first error.
-/

namespace LineCalc.Text

/-- A file that has been read in part. -/
structure Stream where
  /-- The bytes that have not been decoded. -/
  bytes : List UInt8
  /-- The bytes that have been decoded in part. -/
  held : List UInt8 := []
  /-- Whether a carriage return is held back. -/
  afterReturn : Bool := false
  /-- The characters that have been decoded and not given. -/
  ready : Text := []
  /-- The numbers of bytes and characters of the last chunk. -/
  rate : Nat × Nat := (1, 1)

namespace Stream

/-- The number of characters of a part. -/
def partSize : Nat := 4096

/-- The least number of bytes of a chunk, unless the file ends before. -/
def leastChunk : Nat := 8192

/-! ## Decoding a chunk -/

/-- Whether two bytes would begin a surrogate.  They are held back like the beginning of a
character. -/
def beginsSurrogate (a b : UInt8) : Bool :=
  a == 0xED && 0xA0 ≤ b && b ≤ 0xBF

/-- The text of pieces from byte `position` on, and the bytes at their end that are held
back. -/
def ofOpenPieces (position : Nat) : List Piece → Except Utf8Error (Text × List UInt8)
  | [] => .ok ([], [])
  | .char c :: rest =>
    (ofOpenPieces (position + c.utf8Size) rest).map fun (s, held) => (c :: s, held)
  | [.fault .truncated bytes] => .ok ([], bytes)
  | .fault reason bytes :: rest =>
    match bytes, rest with
    | [a], [.fault _ [b]] =>
      if beginsSurrogate a b then .ok ([], [a, b]) else .error ⟨reason, bytes, position⟩
    | _, _ => .error ⟨reason, bytes, position⟩

/-- The text that bytes encode, and the bytes at their end that are held back. -/
def decodeOpen (bytes : List UInt8) : Except Utf8Error (Text × List UInt8) :=
  ofOpenPieces 0 (pieces bytes)

/-- A text without a carriage return at its end, and whether there is one. -/
def splitReturn (s : Text) : Text × Bool :=
  if s.getLast? = some '\r' then (s.dropLast, true) else (s, false)

/-- The text behind a carriage return that has been held back. -/
def behindReturn (s : Stream) (text : Text) : Text :=
  if s.afterReturn then '\r' :: text else text

/-- The number of bytes of the chunk that is read for `wanted` characters. -/
def chunkSize (s : Stream) (wanted : Nat) : Nat :=
  max leastChunk (wanted * max s.rate.1 s.rate.2 / s.rate.2)

/-- The stream behind the next chunk, which is read for `wanted` characters. -/
def readChunk (s : Stream) (wanted : Nat) : Except Utf8Error Stream := do
  let chunk := s.bytes.take (s.chunkSize wanted)
  let (text, held) ← decodeOpen (s.held ++ chunk)
  let (text, afterReturn) := splitReturn (s.behindReturn text)
  let text := unifyLineEnds text
  .ok {
    bytes := s.bytes.drop (s.chunkSize wanted)
    held, afterReturn
    ready := s.ready ++ text
    rate := if text.isEmpty then (1, 1) else (chunk.length, text.length) }

/-- The stream at the end of the file, where nothing is held back any more. -/
def finish (s : Stream) : Except Utf8Error Stream :=
  (decode s.held).map fun text =>
    { s with
      held := []
      afterReturn := false
      ready := s.ready ++ unifyLineEnds (s.behindReturn text) }

theorem length_bytes_readChunk {s t : Stream} {wanted : Nat} (h : s.readChunk wanted = .ok t)
    (hs : s.bytes ≠ []) : t.bytes.length < s.bytes.length := by
  simp only [readChunk, bind, Except.bind] at h
  split at h
  · cases h
  · cases h
    have := List.length_pos_iff.2 hs
    simp only [List.length_drop, chunkSize, leastChunk]
    omega

/-! ## Parts -/

/-- The stream with a part ready, unless the file ends before. -/
def fill (s : Stream) : Except Utf8Error Stream :=
  if partSize ≤ s.ready.length then .ok s
  else if _hs : s.bytes = [] then s.finish
  else
    match _h : s.readChunk (partSize - s.ready.length) with
    | .ok t => fill t
    | .error e => .error e
termination_by s.bytes.length
decreasing_by exact length_bytes_readChunk _h _hs

/-- The parts of a stream, at most `count`, and the error behind them if there is one. -/
def parts : (count : Nat) → Stream → List Text × Option Utf8Error
  | 0, _ => ([], none)
  | count + 1, s =>
    match s.fill with
    | .error e => ([], some e)
    | .ok t =>
      if t.ready.isEmpty then ([], none)
      else
        let (more, e) := parts count { t with ready := t.ready.drop partSize }
        (t.ready.take partSize :: more, e)

end Stream

/-- The parts of the text of a file, and the error behind them if there is one.  The bytes
of a file encode at most as many characters, so there are no more parts than bytes. -/
def parts (bytes : List UInt8) : List Text × Option Utf8Error :=
  Stream.parts (bytes.length + 1) { bytes }

end LineCalc.Text
