import LineCalc.Text.Quoted
import LineCalc.Text.Utf8

/-!
# Raw texts

A document can name any code point by its number, and some code points are no
characters: the surrogates.  A raw text is a sequence of code points.

* `RawText.ofText` is a text as a raw text, and `RawText.toText?` goes back where there
  are no surrogates;
* `RawText.lossy` puts U+FFFD in the place of each surrogate;
* `RawText.quote` is a raw text between quotation marks.
-/

namespace LineCalc

/-- A code point: a character or one of the surrogates. -/
inductive CodePoint where
  | char (c : Char)
  | surrogate (index : Fin 0x800)
  deriving DecidableEq, Repr

/-- A sequence of code points. -/
abbrev RawText := List CodePoint

namespace CodePoint

def firstSurrogate : Nat := 0xD800

def toNat : CodePoint → Nat
  | .char c => c.toNat
  | .surrogate index => firstSurrogate + index

/-- The code point with the given number, for numbers below 0x110000. -/
def ofNat? (n : Nat) : Option CodePoint :=
  match Text.char? n with
  | some c => some (.char c)
  | none =>
    if h : n - firstSurrogate < 0x800 ∧ firstSurrogate ≤ n then
      some (.surrogate ⟨n - firstSurrogate, h.1⟩)
    else none

/-- The character that a code point is. -/
def toChar? : CodePoint → Option Char
  | .char c => some c
  | .surrogate _ => none

/-- The character that a code point is, or U+FFFD. -/
def lossy : CodePoint → Char
  | .char c => c
  | .surrogate _ => Text.replacement

/-- A code point of a text that stands between two marks.  A surrogate is written by its
number. -/
def escape (mark : Char) : CodePoint → Text
  | .char c => Text.escape mark c
  | p => ['\\', 'u'] ++ Text.hexadecimal 4 p.toNat

end CodePoint

namespace RawText

def ofText (s : Text) : RawText :=
  s.map .char

/-- The text that a raw text is, unless there are surrogates in it. -/
def toText? (s : RawText) : Option Text :=
  s.mapM CodePoint.toChar?

/-- The text with U+FFFD in the place of each surrogate. -/
def lossy (s : RawText) : Text :=
  s.map CodePoint.lossy

/-- A raw text between quotation marks. -/
def quote (s : RawText) : Text :=
  let mark := Text.quotationMark s.lossy
  mark :: s.flatMap (CodePoint.escape mark) ++ [mark]

/-- A raw text between quotation marks, as part of a message. -/
def quoted (s : RawText) : String :=
  String.ofList (quote s)

/-! ## Texts among the raw texts -/

theorem toText?_ofText (s : Text) : toText? (ofText s) = some s := by
  induction s with
  | nil => rfl
  | cons c rest ih =>
    have hrest : (rest.map CodePoint.char).mapM CodePoint.toChar? = some rest := ih
    simp [toText?, ofText, CodePoint.toChar?, hrest]

theorem lossy_ofText (s : Text) : lossy (ofText s) = s := by
  simp [lossy, ofText, Function.comp_def, CodePoint.lossy]

theorem ofText_injective {s t : Text} (h : ofText s = ofText t) : s = t := by
  rw [← lossy_ofText s, h, lossy_ofText]

/-- A text is quoted in the same way as a raw text. -/
theorem quote_ofText (s : Text) : quote (ofText s) = Text.quote s := by
  simp only [quote, Text.quote, lossy_ofText]
  simp [ofText, List.flatMap_map, CodePoint.escape]

end RawText

end LineCalc
