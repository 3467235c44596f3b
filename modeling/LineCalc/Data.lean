import LineCalc.Moment
import LineCalc.Number.Numeral
import LineCalc.Number.Printed
import LineCalc.Text.Raw

/-!
# Data

Settings, transcripts and the values of variables come from outside as data: scalars,
lists, and mappings from scalars to data.  A mapping keeps the order in which its keys
were first written.

`Data.toFloat` is the double that a datum stands for where a number is asked for.  A
text stands for the number that it spells, a truth value for one or zero, and an
integer for the double nearest to it unless it is too large.  Bytes spell a number as a
text does, but in ASCII only: the digits and blanks of other scripts are for texts.
-/

namespace LineCalc

/-- A datum without parts. -/
inductive Scalar where
  | null
  | bool (value : Bool)
  | int (value : Int)
  | float (value : Float)
  | text (value : Text)
  /-- A text with surrogates among its code points. -/
  | brokenText (value : RawText)
  | bytes (value : List UInt8)
  | moment (value : Moment)
  deriving DecidableEq, Inhabited

/-- A text is a scalar. -/
instance : Coe Text Scalar := ⟨.text⟩

inductive Data where
  | scalar (value : Scalar)
  | list (items : List Data)
  | map (entries : List (Scalar × Data))
  deriving Inhabited

namespace Scalar

def ofRaw (s : RawText) : Scalar :=
  match s.toText? with
  | some t => .text t
  | none => .brokenText s

/-- Whether two scalars are one key.  Truth values count as one and zero, and an
integer is the double that is equal to it. -/
def sameKey (a b : Scalar) : Bool :=
  match number? a, number? b with
  | some x, some y => x == y
  | none, none =>
    match a, b with
    | .float x, .float y => x == y
    | .moment x, .moment y => x.same y
    | a, b => a == b
  | _, _ => false
where
  /-- The integer that a scalar is equal to, if there is one. -/
  number? : Scalar → Option Int
    | .bool value => some (if value then 1 else 0)
    | .int value => some value
    | .float value => Binary64.toInt? value
    | _ => none

/-- A scalar as it is shown in messages. -/
def shown : Scalar → String
  | .null => "None"
  | .bool value => if value then "True" else "False"
  | .int value =>
    if value.natAbs < Nat.pow 10 Text.digitLimit then toString value
    else "<unprintable int object>"
  | .float value => String.ofList (printNumber value)
  | .text value => Text.quoted value
  | .brokenText value => RawText.quoted value
  | .bytes value => String.ofList (Text.quoteBytes value)
  | .moment value => value.shown

end Scalar

/-- Why a datum stands for no number. -/
inductive ConversionError where
  /-- A text, or bytes, in which no numeral is written. -/
  | unreadable (source : Scalar)
  /-- The integer is beyond the greatest finite double. -/
  | tooLarge
  /-- The datum is of a kind that stands for no number. -/
  | wrongKind (kind : String)
  deriving DecidableEq

def ConversionError.message : ConversionError → String
  | .unreadable source => s!"could not convert string to float: {source.shown}"
  | .tooLarge => "int too large to convert to float"
  | .wrongKind kind => s!"float() argument must be a string or a real number, not '{kind}'"

namespace Data

def text (s : Text) : Data :=
  .scalar (.text s)

/-- The datum of the key `key` in a mapping. -/
def lookup (key : Text) (entries : List (Scalar × Data)) : Option Data :=
  (entries.find? fun entry => entry.1.sameKey (.text key)).map (·.2)

/-- The mapping with `value` under `key`: in the place of an earlier value, or at the
end. -/
def insert (key : Scalar) (value : Data) :
    List (Scalar × Data) → List (Scalar × Data)
  | [] => [(key, value)]
  | (k, v) :: rest =>
    if k.sameKey key then (k, value) :: rest else (k, v) :: insert key value rest

/-- The double that a scalar spells, if its characters are known. -/
def readFloat (source : Scalar) (characters : Option Text) : Except ConversionError Float :=
  match characters.bind readNumber? with
  | some x => .ok x
  | none => .error (.unreadable source)

/-- The double that a datum stands for. -/
def toFloat : Data → Except ConversionError Float
  | .scalar .null => .error (.wrongKind "NoneType")
  | .scalar (.bool value) => .ok (if value then 1 else 0)
  | .scalar (.int value) =>
    match Binary64.ofInt? value with
    | some x => .ok x
    | none => .error .tooLarge
  | .scalar (.float value) => .ok value
  | .scalar (.text value) => readFloat value (some value)
  | .scalar (.brokenText value) => readFloat (.brokenText value) value.toText?
  | .scalar (.bytes value) => readFloat (.bytes value) (Text.ofAscii? value)
  | .scalar (.moment value) => .error (.wrongKind value.kind)
  | .list _ => .error (.wrongKind "list")
  | .map _ => .error (.wrongKind "dict")

end Data

end LineCalc
