import LineCalc.Text.Basic

/-!
# UTF-8

Bytes are read as a sequence of pieces: a character, or a maximal ill-formed
sequence with the reason why it is none.

* `pieces` reads the bytes;
* `decode` gives the text, or the first ill-formed sequence and where it stands;
* `decodeLossy` gives the text with each ill-formed sequence replaced by U+FFFD;
* `ofAscii?` reads bytes of which each has to be a character by itself.

A sequence is ill-formed from its first byte if that byte begins no character, up
to the byte that cannot follow if there is one, and to the end of the bytes if
they end too early.
-/

namespace LineCalc.Text

/-- Why a sequence of bytes is no character. -/
inductive Utf8Fault where
  /-- The first byte begins no character. -/
  | badStart
  /-- A byte stands where it cannot continue the character. -/
  | badContinuation
  /-- The bytes end inside the character. -/
  | truncated
  deriving DecidableEq, Repr

/-- A part of a sequence of bytes: a character, or an ill-formed sequence. -/
inductive Piece where
  | char (c : Char)
  | fault (reason : Utf8Fault) (bytes : List UInt8)
  deriving DecidableEq, Repr

/-- What may follow a first byte: how many bytes, the least and the greatest
second byte, and the value of the first byte's own bits. -/
structure Lead where
  continuations : Nat
  leastSecond : Nat
  greatestSecond : Nat
  bits : Nat

/-- The first bytes of the characters of more than one byte.  The bounds of the
second byte leave out overlong forms, surrogates and what is above U+10FFFF. -/
def lead? (b : Nat) : Option Lead :=
  if 0xC2 ≤ b ∧ b ≤ 0xDF then some ⟨1, 0x80, 0xBF, b - 0xC0⟩
  else if b = 0xE0 then some ⟨2, 0xA0, 0xBF, 0⟩
  else if b = 0xED then some ⟨2, 0x80, 0x9F, 0xD⟩
  else if 0xE1 ≤ b ∧ b ≤ 0xEF then some ⟨2, 0x80, 0xBF, b - 0xE0⟩
  else if b = 0xF0 then some ⟨3, 0x90, 0xBF, 0⟩
  else if b = 0xF4 then some ⟨3, 0x80, 0x8F, 4⟩
  else if 0xF1 ≤ b ∧ b ≤ 0xF3 then some ⟨3, 0x80, 0xBF, b - 0xF0⟩
  else none

/-- The continuation bytes of a character: `taken` holds the bytes read so far,
the last one first, and `value` the code point they make up.  The second byte must
lie between `least` and `greatest`, the later ones between 0x80 and 0xBF. -/
def continueChar (taken : List UInt8) (value : Nat) :
    (continuations least greatest : Nat) → List UInt8 → Piece × List UInt8
  | 0, _, _, rest =>
    match char? value with
    | some c => (.char c, rest)
    | none => (.fault .badStart taken.reverse, rest)
  | _ + 1, _, _, [] => (.fault .truncated taken.reverse, [])
  | n + 1, least, greatest, b :: rest =>
    if least ≤ b.toNat ∧ b.toNat ≤ greatest then
      continueChar (b :: taken) (value * 64 + (b.toNat - 0x80)) n 0x80 0xBF rest
    else
      (.fault .badContinuation taken.reverse, b :: rest)

/-- The first piece of a sequence of bytes that begins with `b`, and the bytes
behind it. -/
def firstPiece (b : UInt8) (rest : List UInt8) : Piece × List UInt8 :=
  if b.toNat < 0x80 then
    match char? b.toNat with
    | some c => (.char c, rest)
    | none => (.fault .badStart [b], rest)
  else
    match lead? b.toNat with
    | none => (.fault .badStart [b], rest)
    | some lead =>
      continueChar [b] lead.bits lead.continuations lead.leastSecond lead.greatestSecond rest

theorem length_continueChar (taken : List UInt8) (value continuations least greatest : Nat)
    (rest : List UInt8) :
    (continueChar taken value continuations least greatest rest).2.length ≤ rest.length := by
  induction continuations generalizing taken value least greatest rest with
  | zero => simp only [continueChar]; split <;> simp
  | succ n ih =>
    cases rest with
    | nil => simp [continueChar]
    | cons b rest =>
      simp only [continueChar]
      split
      · exact Nat.le_succ_of_le (ih ..)
      · simp

theorem length_firstPiece (b : UInt8) (rest : List UInt8) :
    (firstPiece b rest).2.length ≤ rest.length := by
  simp only [firstPiece]
  split
  · split <;> simp
  · split
    · simp
    · exact length_continueChar ..

/-- The characters and the ill-formed sequences of a sequence of bytes. -/
def pieces : List UInt8 → List Piece
  | [] => []
  | b :: rest => (firstPiece b rest).1 :: pieces (firstPiece b rest).2
termination_by bytes => bytes.length
decreasing_by
  have := length_firstPiece b rest
  simp only [List.length_cons]
  omega

/-- The number of bytes of a piece. -/
def Piece.size : Piece → Nat
  | .char c => c.utf8Size
  | .fault _ bytes => bytes.length

/-- The first ill-formed sequence of a sequence of bytes, and where it stands. -/
structure Utf8Error where
  reason : Utf8Fault
  bytes : List UInt8
  position : Nat
  deriving DecidableEq, Repr

/-- The text of the pieces from byte `position` on. -/
def ofPieces (position : Nat) : List Piece → Except Utf8Error Text
  | [] => .ok []
  | .char c :: rest => (ofPieces (position + Piece.size (.char c)) rest).map (c :: ·)
  | .fault reason bytes :: _ => .error ⟨reason, bytes, position⟩

/-- The text that the bytes encode. -/
def decode (bytes : List UInt8) : Except Utf8Error Text :=
  ofPieces 0 (pieces bytes)

/-- The replacement character, U+FFFD. -/
def replacement : Char := '\uFFFD'

/-- A piece as a character. -/
def Piece.toChar : Piece → Char
  | .char c => c
  | .fault _ _ => replacement

/-- The text that the bytes encode, with U+FFFD for each ill-formed sequence. -/
def decodeLossy (bytes : List UInt8) : Text :=
  (pieces bytes).map Piece.toChar

/-- The text of bytes that are all ASCII. -/
def ofAscii? (bytes : List UInt8) : Option Text :=
  bytes.mapM fun b => if b.toNat < 0x80 then some (Char.ofUInt8 b) else none

/-- What is wrong, in words. -/
def Utf8Fault.message : Utf8Fault → String
  | .badStart => "invalid start byte"
  | .badContinuation => "invalid continuation byte"
  | .truncated => "unexpected end of data"

/-- What is wrong and where. -/
def Utf8Error.message (e : Utf8Error) : String :=
  match e.bytes with
  | [b] =>
    s!"'utf-8' codec can't decode byte 0x{String.ofList (hexadecimal 2 b.toNat)} in " ++
      s!"position {e.position}: {e.reason.message}"
  | bytes =>
    s!"'utf-8' codec can't decode bytes in position {e.position}-" ++
      s!"{e.position + bytes.length - 1}: {e.reason.message}"

end LineCalc.Text
