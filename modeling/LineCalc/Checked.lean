import LineCalc.Data

/-!
# Checking data

Data from outside is checked against what is asked for, and everything that is wrong
with it is reported at once.  A `Problem` says what is wrong and where: the location is
the path of keys and indices from the outside in.

* `Checked α` is a result or a list of problems, and `Checked.both` joins the results of
  two checks or the problems of both;
* `Problem.under` moves problems under a key or an index;
* `checkRaw`, `checkRawOrNull`, `checkText` and `checkBool` check scalars, `checkEach` a
  list, and `checkField` a field of a mapping that may be left out.
-/

namespace LineCalc

/-- A step of a location. -/
inductive Place where
  | key (name : Text)
  | index (n : Int)
  deriving DecidableEq

/-- What is wrong with a datum. -/
inductive Issue where
  | missing
  | notText
  | brokenText
  | emptyText
  | severalLines
  | uninterpretableBool
  | notBool
  | notList
  /-- A mapping of the named kind is asked for. -/
  | notRecord (kind : String)
  | unknownKey
  | keyNotText
  deriving DecidableEq

namespace Issue

/-- The issue in a word. -/
def label : Issue → String
  | .missing => "missing"
  | .notText => "string_type"
  | .brokenText => "string_unicode"
  | .emptyText => "string_too_short"
  | .severalLines => "value_error"
  | .uninterpretableBool => "bool_parsing"
  | .notBool => "bool_type"
  | .notList => "list_type"
  | .notRecord _ => "model_type"
  | .unknownKey => "extra_forbidden"
  | .keyNotText => "invalid_key"

def message : Issue → String
  | .missing => "Field required"
  | .notText => "Input should be a valid string"
  | .brokenText =>
    "Input should be a valid string, unable to parse raw data as a unicode string"
  | .emptyText => "String should have at least 1 character"
  | .severalLines => "Value error, sentinel must be a single line"
  | .uninterpretableBool => "Input should be a valid boolean, unable to interpret input"
  | .notBool => "Input should be a valid boolean"
  | .notList => "Input should be a valid list"
  | .notRecord kind => s!"Input should be a valid dictionary or instance of {kind}"
  | .unknownKey => "Extra inputs are not permitted"
  | .keyNotText => "Keys should be strings"

end Issue

/-- Something wrong and where. -/
structure Problem where
  location : List Place
  issue : Issue
  deriving DecidableEq

namespace Problem

/-- A problem with the datum itself. -/
def here (issue : Issue) : Problem := ⟨[], issue⟩

/-- The problem seen from one level further out. -/
def under (place : Place) (p : Problem) : Problem :=
  ⟨place :: p.location, p.issue⟩

end Problem

/-- A result, or all that is wrong. -/
abbrev Checked (α : Type) := Except (List Problem) α

namespace Checked

variable {α β : Type}

/-- A check that fails for one reason. -/
def fail (issue : Issue) : Checked α := .error [.here issue]

def problems : Checked α → List Problem
  | .ok _ => []
  | .error ps => ps

/-- The results of two checks, or the problems of both. -/
def both : Checked α → Checked β → Checked (α × β)
  | .ok a, .ok b => .ok (a, b)
  | a, b => .error (a.problems ++ b.problems)

/-- A check seen from one level further out. -/
def under (place : Place) (c : Checked α) : Checked α :=
  c.mapError (·.map (Problem.under place))

end Checked

/-! ## Scalars -/

/-- A datum that has to be a text, in which there may be surrogates.  Bytes count as the
text that they encode. -/
def checkRaw : Data → Checked RawText
  | .scalar (.text s) => .ok (RawText.ofText s)
  | .scalar (.brokenText s) => .ok s
  | .scalar (.bytes b) =>
    match Text.decode b with
    | .ok s => .ok (RawText.ofText s)
    | .error _ => .fail .brokenText
  | _ => .fail .notText

def checkRawOrNull : Data → Checked (Option RawText)
  | .scalar .null => .ok none
  | d => (checkRaw d).map some

/-- A datum that has to be a text of characters. -/
def checkText (d : Data) : Checked Text := do
  match (← checkRaw d).toText? with
  | some s => .ok s
  | none => .fail .brokenText

/-- The words for the truth values, in lower case. -/
def boolWords : List (Text × Bool) :=
  [(['0'], false), (['o', 'f', 'f'], false), (['f'], false),
    (['f', 'a', 'l', 's', 'e'], false), (['n'], false), (['n', 'o'], false),
    (['1'], true), (['o', 'n'], true), (['t'], true), (['t', 'r', 'u', 'e'], true),
    (['y'], true), (['y', 'e', 's'], true)]

/-- The integers of 64 bits lie below this one, and from its opposite on. -/
def wordLimit : Int := 0x8000000000000000

/-- An integer that has to be a truth value: zero or one. -/
def checkIntBool (n : Int) : Checked Bool :=
  if n = 0 then .ok false
  else if n = 1 then .ok true
  else if -wordLimit ≤ n ∧ n < wordLimit then .fail .uninterpretableBool
  else .fail .notBool

/-- A word that has to be one for a truth value, in any mixture of cases. -/
def checkBoolWord (s : Text) : Checked Bool :=
  match boolWords.lookup (s.map Char.toLower) with
  | some value => .ok value
  | none => .fail .uninterpretableBool

/-- A datum that has to be a truth value: one itself, a word for one, or a number that is
zero or one. -/
def checkBool : Data → Checked Bool
  | .scalar (.bool value) => .ok value
  | .scalar (.int n) => checkIntBool n
  | .scalar (.float x) =>
    match Binary64.toInt? x with
    | some n => if n = -wordLimit then .fail .notBool else checkIntBool n
    | none => .fail .notBool
  | .scalar (.text s) => checkBoolWord s
  | .scalar (.brokenText _) => .fail .brokenText
  | .scalar (.bytes b) =>
    match Text.decode b with
    | .ok s => checkBoolWord s
    | .error _ => .fail .uninterpretableBool
  | _ => .fail .notBool

/-! ## Lists and mappings -/

/-- The results of a check of each item, or the problems of all of them; the items count
from `start`. -/
def checkEach {α : Type} (check : Data → Checked α) (start : Nat) :
    List Data → Checked (List α)
  | [] => .ok []
  | d :: rest =>
    (((check d).under (.index start)).both (checkEach check (start + 1) rest)).map
      fun (a, as) => a :: as

/-- A datum that has to be a list of items that pass a check. -/
def checkList {α : Type} (check : Data → Checked α) : Data → Checked (List α)
  | .list items => checkEach check 0 items
  | _ => .fail .notList

/-- The field of a mapping under `key`, or the value of a field that is left out. -/
def checkField {α : Type} (key : Text) (check : Data → Checked α) (absent : Checked α)
    (entries : List (Scalar × Data)) : Checked α :=
  match Data.lookup key entries with
  | some d => (check d).under (.key key)
  | none => absent.under (.key key)

/-- A key as a step of a location: an integer of 64 bits or a truth value is shown as a
number, any other key as text. -/
def Scalar.place : Scalar → Place
  | .text s => .key s
  | .bool value => .index (if value then 1 else 0)
  | .int n => if -wordLimit ≤ n ∧ n < wordLimit then .index n else .key (Scalar.int n).shown.toList
  | key => .key key.shown.toList

/-- What is wrong with the keys of a mapping that may have the given keys only.  A key has to
be a text as it stands: bytes, which count as a text where one is asked for as a value, are
no key. -/
def unknownKeys (known : List Text) (entries : List (Scalar × Data)) : List Problem :=
  entries.filterMap fun entry =>
    match entry.1 with
    | .text s => if known.contains s then none else some ⟨[.key s], .unknownKey⟩
    | key => some ⟨[key.place], .keyNotText⟩

end LineCalc
