import LineCalc.Text.Digit
import LineCalc.Text.Raw

/-!
# Faults of documents

Nearly every fault of a document is the same: it is malformed.  The other faults are of
bytes that encode no text, and of scalars that look like a number, a date or a character
and stand for none; each of them has words of its own.
-/

namespace LineCalc.Yaml

/-- The part of a date or a time that is out of range. -/
inductive MomentPart where
  | year
  | month
  | day
  | hour
  | minute
  | second
  /-- The distance from universal time, in words. -/
  | offset (distance : String)
  deriving DecidableEq

/-- What is out of range, in words. -/
def MomentPart.message : MomentPart → String
  | .year => "year 0 is out of range"
  | .month => "month must be in 1..12"
  | .day => "day is out of range for month"
  | .hour => "hour must be in 0..23"
  | .minute => "minute must be in 0..59"
  | .second => "second must be in 0..59"
  | .offset distance =>
    "offset must be a timedelta strictly between -timedelta(hours=24) and " ++
      s!"timedelta(hours=24), not {distance}."

/-- Why a document describes no data. -/
inductive Fault where
  | malformed
  /-- The text ends where it must go on. -/
  | unfinished
  | undecodable (error : Text.Utf8Error)
  /-- An escape names a code point above the last one. -/
  | beyondUnicode
  /-- An escape names a code point that is not even a word of 31 bits. -/
  | beyondWord
  /-- A number has no characters. -/
  | emptyNumber
  | unreadableInteger (base : Nat) (digits : RawText)
  /-- An integer is written with more decimal digits than are read. -/
  | tooManyDigits (count : Nat)
  | unreadableNumber (digits : RawText)
  /-- A number to base sixty has a digit whose unit is beyond the greatest double. -/
  | tooLarge
  | unknownTruth (word : RawText)
  /-- A scalar that is tagged as a date does not have the form of one. -/
  | notMoment
  /-- A mapping is tagged as a date. -/
  | mappingMoment
  | outOfRange (part : MomentPart)
  /-- Nodes are nested too deep, or without an end. -/
  | tooDeep
  deriving DecidableEq

namespace Fault

/-- The fault of a text that does not go on as it must. -/
def atRest : Text → Fault
  | [] => .unfinished
  | _ => .malformed

/-- The greatest number of characters of a quoted text in a message about an integer. -/
def quoteLimit : Nat := 200

def message : Fault → String
  | .malformed => "malformed document"
  | .unfinished => "malformed document"
  | .undecodable error => error.message
  | .beyondUnicode => "chr() arg not in range(0x110000)"
  | .beyondWord => "Python int too large to convert to C int"
  | .emptyNumber => "string index out of range"
  | .unreadableInteger base digits =>
    let quoted := String.ofList ((RawText.quote digits).take quoteLimit)
    s!"invalid literal for int() with base {base}: {quoted}"
  | .tooManyDigits count =>
    s!"Exceeds the limit ({Text.digitLimit} digits) for integer string conversion: value has " ++
      s!"{count} digits; use sys.set_int_max_str_digits() to increase the limit"
  | .unreadableNumber digits =>
    s!"could not convert string to float: {RawText.quoted digits}"
  | .tooLarge => "int too large to convert to float"
  | .unknownTruth word => RawText.quoted word
  | .notMoment => "'NoneType' object has no attribute 'groupdict'"
  | .mappingMoment => "expected string or bytes-like object, got 'list'"
  | .outOfRange part => part.message
  | .tooDeep => "maximum recursion depth exceeded"

end Fault

end LineCalc.Yaml
