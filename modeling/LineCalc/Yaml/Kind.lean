import LineCalc.Text.Raw
import LineCalc.Yaml.Character
import LineCalc.Yaml.Moment

/-!
# What nodes stand for

Each node of a document is of a kind.  A tag names the kind; without one, a plain scalar
is of the kind that it is written like, any other scalar is a text, and a list or a
mapping is what it is.

* `Kind.ofTag` gives the kind that a tag names;
* `Kind.ofPlain` gives the kind of a plain scalar.

A number may hold underscores.  An integer may be written to base two, eight or sixteen,
and an integer or a number to base sixty with colons between its digits.
-/

namespace LineCalc.Yaml

/-- What a node stands for. -/
inductive Kind where
  | null
  | bool
  | int
  | float
  | moment
  | text
  | bytes
  | list
  | map
  /-- A mapping of which only the keys count. -/
  | set
  /-- A list of mappings with one entry each. -/
  | pairs
  /-- The key of mappings whose entries belong to the mapping around it. -/
  | merge
  /-- The key of the value that stands for a mapping. -/
  | default
  | unknown
  deriving DecidableEq, Repr, Inhabited

/-! ## Tags -/

/-- The beginning of the tags that a document need not explain. -/
def coreTags : Text := "tag:yaml.org,2002:".toList

/-- The tag that leaves open what a scalar stands for. -/
def openTag : Text := ['!']

/-- The kinds with the tags that name them, without the common beginning of the tags. -/
def coreKinds : List (String × Kind) :=
  [("null", .null), ("bool", .bool), ("int", .int), ("float", .float),
    ("timestamp", .moment), ("str", .text), ("binary", .bytes), ("seq", .list),
    ("map", .map), ("set", .set), ("omap", .pairs), ("pairs", .pairs), ("merge", .merge),
    ("value", .default)]

/-- The kind that a tag names. -/
def Kind.ofTag (tag : Text) : Kind :=
  ((coreKinds.find? fun (name, _) => tag == coreTags ++ name.toList).map (·.2)).getD .unknown

/-! ## Forms -/

/-- The texts that stand for nothing. -/
def nullWords : List Text :=
  ["", "~", "null", "Null", "NULL"].map String.toList

/-- The words for truth values, with the truth values. -/
def truthWords : List (Text × Bool) :=
  [("yes", true), ("no", false), ("true", true), ("false", false), ("on", true),
    ("off", false)].map fun (word, value) => (word.toList, value)

/-- A word with its first letter in upper case. -/
def capitalized : Text → Text
  | [] => []
  | c :: rest => c.toUpper :: rest

/-- Whether a text is a word for a truth value in lower case, in upper case, or with a
capital. -/
def isTruthWord (s : Text) : Bool :=
  truthWords.any fun (word, _) => s = word || s = capitalized word || s = word.map Char.toUpper

/-- Whether all characters are of a class or underscores. -/
def allDigits (p : Char → Bool) (s : Text) : Bool :=
  s.all fun c => p c || c == '_'

/-- Whether a text is digits with underscores that begin with a digit. -/
def isDigits : Text → Bool
  | [] => false
  | c :: rest => c.isDigit && allDigits Char.isDigit rest

/-- The text behind a sign, if there is one. -/
def unsigned : Text → Text
  | '-' :: rest => rest
  | '+' :: rest => rest
  | s => s

/-- Whether a text is a number below sixty. -/
def isSixtieth : Text → Bool
  | [a] => a.isDigit
  | [a, b] => a.isDigit && a < '6' && b.isDigit
  | _ => false

/-- Whether a text is written to base sixty with more than one digit, the first of which
`first` admits. -/
def isSexagesimal (first : Text → Bool) (s : Text) : Bool :=
  match Text.cutAt (· == ':') s with
  | head :: next :: rest => first head && (next :: rest).all isSixtieth
  | _ => false

/-- Whether a text is nothing or an exponent with its sign. -/
def isExponent : Text → Bool
  | [] => true
  | mark :: sign :: digits =>
    (mark == 'e' || mark == 'E') && (sign == '+' || sign == '-') && !digits.isEmpty &&
      digits.all Char.isDigit
  | _ => false

/-- Whether a text is digits to base sixteen, eight or two behind the sign of their
base, or to base ten. -/
def isUnsignedInteger : Text → Bool
  | '0' :: 'b' :: digits =>
    !digits.isEmpty && allDigits (fun c => c == '0' || c == '1') digits
  | '0' :: 'x' :: digits =>
    !digits.isEmpty && allDigits (fun c => (hexDigitValue? c).isSome) digits
  | '0' :: digits => allDigits (fun c => c.isDigit && c < '8') digits
  | s => isDigits s

def isInteger (s : Text) : Bool :=
  let body := unsigned s
  isUnsignedInteger body ||
    isSexagesimal (fun head => isDigits head && head.head? != some '0') body

/-- Whether a text is a number with a point, or not finite. -/
def isFloat (s : Text) : Bool :=
  let body := unsigned s
  let whole := body.takeWhile (· != '.')
  match body.dropWhile (· != '.') with
  | [] => false
  | _ :: rest =>
    let digits := rest.takeWhile fun c => c.isDigit || c == '_'
    let exponent := rest.drop digits.length
    (isDigits whole && isExponent exponent) ||
      (isSexagesimal isDigits whole && exponent.isEmpty) ||
      (whole.isEmpty && s == body && isDigits digits && isExponent exponent) ||
      (whole.isEmpty && ["inf", "Inf", "INF"].any (·.toList == rest)) ||
      (whole.isEmpty && s == body && ["nan", "NaN", "NAN"].any (·.toList == rest))

/-- The kind of a plain scalar on one line. -/
def kindOfLine (s : Text) : Kind :=
  if s ∈ nullWords then .null
  else if isTruthWord s then .bool
  else if isFloat s then .float
  else if isInteger s then .int
  else if isMoment s then .moment
  else if s = ['<', '<'] then .merge
  else if s = ['='] then .default
  else .text

/-- A text without the line feed at its end, unless it is nothing else. -/
def withoutLineFeed (s : Text) : Text :=
  if s.getLast? = some '\n' ∧ s.length ≠ 1 then s.dropLast else s

/-- The kind of a plain scalar.  A line feed at its end does not count. -/
def Kind.ofPlain (s : RawText) : Kind :=
  match s.toText? with
  | some s => kindOfLine (withoutLineFeed s)
  | none => .text

end LineCalc.Yaml
