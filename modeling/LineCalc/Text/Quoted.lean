import LineCalc.Text.Printable

/-!
# Quoted texts

Messages and summaries show a text between quotation marks, so that its limits
and its invisible characters can be seen.  The mark is the apostrophe, unless the
text contains an apostrophe and no double quotation mark.  Inside, the mark and
the backslash stand after a backslash, and a character that is not printable is
written as an escape: by name for the tab, the line feed and the carriage return,
else by its code point in two, four or eight hexadecimal digits.

Bytes are shown in the same way with a `b` before them; only those of ASCII are
printable.
-/

namespace LineCalc.Text

/-- The quotation mark to put around a text. -/
def quotationMark (s : Text) : Char :=
  if s.contains '\'' && !s.contains '"' then '"' else '\''

/-- One character of a text that stands between two marks. -/
def escape (mark c : Char) : Text :=
  if c == mark || c == '\\' then ['\\', c]
  else if c == '\t' then ['\\', 't']
  else if c == '\n' then ['\\', 'n']
  else if c == '\r' then ['\\', 'r']
  else if isPrintable c then [c]
  else if c.toNat ≤ 0xFF then ['\\', 'x'] ++ hexadecimal 2 c.toNat
  else if c.toNat ≤ 0xFFFF then ['\\', 'u'] ++ hexadecimal 4 c.toNat
  else ['\\', 'U'] ++ hexadecimal 8 c.toNat

/-- A text between quotation marks. -/
def quote (s : Text) : Text :=
  let mark := quotationMark s
  mark :: s.flatMap (escape mark) ++ [mark]

/-- A text between quotation marks, as part of a message. -/
def quoted (s : Text) : String :=
  String.ofList (quote s)

/-- One byte of bytes that stand between two marks. -/
def escapeByte (mark : Char) (b : UInt8) : Text :=
  if b.toNat < 0x7F then escape mark (Char.ofNat b.toNat)
  else ['\\', 'x'] ++ hexadecimal 2 b.toNat

/-- Bytes between quotation marks. -/
def quoteBytes (bytes : List UInt8) : Text :=
  let mark := quotationMark (bytes.map fun b => Char.ofNat b.toNat)
  'b' :: mark :: bytes.flatMap (escapeByte mark) ++ [mark]

end LineCalc.Text
