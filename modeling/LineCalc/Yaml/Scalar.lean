import LineCalc.Data
import LineCalc.Number.Integer
import LineCalc.Text.Base64
import LineCalc.Text.Case
import LineCalc.Yaml.Kind

/-!
# Scalars of documents

`scalarOf` gives the scalar of a kind that a text writes.  Whatever its kind, the text may
be any text; one that does not write a scalar of the kind is a fault.
-/

namespace LineCalc.Yaml

def withoutUnderscores (s : RawText) : RawText :=
  s.filter (· != .char '_')

/-- Whether a text begins with a minus sign, and what stands behind its sign. -/
def splitSign : RawText → Except Fault (Bool × RawText)
  | [] => .error .emptyNumber
  | .char '-' :: rest => .ok (true, rest)
  | .char '+' :: rest => .ok (false, rest)
  | s => .ok (false, s)

/-- The parts of a text between its colons. -/
def cutAtColons (s : RawText) : List RawText :=
  Text.cutAt (· == .char ':') s

/-- The truth value that a word stands for. -/
def truthOf (s : RawText) : Except Fault Bool :=
  let word := s.lower
  match word.toText?.bind (List.lookup · truthWords) with
  | some value => .ok value
  | none => .error (.unknownTruth word)

/-! ## Integers -/

/-- The integer to a base that a text writes. -/
def integerTo (base : Nat) (s : RawText) : Except Fault Int :=
  (readInteger base s.lossy).mapError fun
    | .unreadable => .unreadableInteger base s
    | .tooLong count => .tooManyDigits count

/-- The integer that a text without a sign and without underscores writes.  A zero at the
beginning means base eight, unless a mark of another base follows. -/
def unsignedInteger : RawText → Except Fault Int
  | [] => .error .emptyNumber
  | [.char '0'] => .ok 0
  | .char '0' :: .char 'b' :: digits => integerTo 2 digits
  | .char '0' :: .char 'x' :: digits => integerTo 16 digits
  | .char '0' :: digits => integerTo 8 (.char '0' :: digits)
  | s => do
    let digits ← (cutAtColons s).mapM (integerTo 10)
    .ok (digits.foldl (60 * · + ·) 0)

/-- The integer that a text writes. -/
def integerOf (s : RawText) : Except Fault Int := do
  let (negative, body) ← splitSign (withoutUnderscores s)
  let n ← unsignedInteger body
  .ok (if negative then -n else n)

/-! ## Numbers -/

/-- The double that a text writes. -/
def readFloat (s : RawText) : Except Fault Float :=
  match readNumber? s.lossy with
  | some x => .ok x
  | none => .error (.unreadableNumber s)

/-- The double that digits to base sixty write: `sum` is that of the digits behind them,
and `unit` is the unit of the last one.  The last digit comes first. -/
def sexagesimal (sum : Float) (unit : Int) : List Float → Except Fault Float
  | [] => .ok sum
  | digit :: rest =>
    match Binary64.ofInt? unit with
    | some x => sexagesimal (sum + digit * x) (60 * unit) rest
    | none => .error .tooLarge

def infinityWord : RawText := RawText.ofText ".inf".toList

/-- The word for what is no number. -/
def nanWord : RawText := RawText.ofText ".nan".toList

/-- The number that a text without a sign and without underscores writes in lower case. -/
def unsignedFloat (s : RawText) : Except Fault Float :=
  if s = infinityWord then .ok (1.0 / 0.0)
  else if s = nanWord then .ok (0.0 / 0.0)
  else if s.contains (.char ':') then do
    let digits ← (cutAtColons s).mapM readFloat
    sexagesimal 0.0 1 digits.reverse
  else readFloat s

/-- The number that a text writes. -/
def floatOf (s : RawText) : Except Fault Float := do
  let (negative, body) ← splitSign (withoutUnderscores s).lower
  let x ← unsignedFloat body
  .ok (if negative then -x else x)

/-- Whether a text writes a number by the word for what is no number. -/
def writesNan (s : RawText) : Bool :=
  match splitSign (withoutUnderscores s).lower with
  | .ok (_, body) => body == nanWord
  | .error _ => false

/-! ## Dates and bytes -/

/-- The date or time that a text writes. -/
def momentOf (s : RawText) : Except Fault Moment :=
  match s.toText?.bind fun s => momentOfText? (withoutLineFeed s) with
  | none => .error .notMoment
  | some m =>
    match outOfRange? m with
    | some part => .error (.outOfRange part)
    | none => .ok m

/-- The bytes that a text writes to base 64. -/
def bytesOf (s : RawText) : Except Fault (List UInt8) :=
  match s.toText? with
  | some t =>
    match Text.bytesOfBase64? t, t.all (·.toNat < 0x80) with
    | some bytes, true => .ok bytes
    | _, _ => .error .malformed
  | none => .error .malformed

/-! ## Scalars by kind -/

/-- The scalar of a kind that a text writes.  No scalar is a list, a mapping or a key with
a meaning of its own. -/
def scalarOf (s : RawText) : Kind → Except Fault Scalar
  | .null => .ok .null
  | .bool => (truthOf s).map .bool
  | .int => (integerOf s).map .int
  | .float => (floatOf s).map .float
  | .moment => (momentOf s).map .moment
  | .text => .ok (.ofRaw s)
  | .bytes => (bytesOf s).map .bytes
  | _ => .error .malformed

end LineCalc.Yaml
