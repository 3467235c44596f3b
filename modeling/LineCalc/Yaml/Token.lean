import LineCalc.Text.Utf8
import LineCalc.Yaml.Fault
import LineCalc.Yaml.Character

/-!
# Tokens of a document

A token is a scalar, an indicator, a property of a node or a directive; the beginning
and the end of an indented list or mapping are tokens too.  This module also reads the
tokens that are names: anchors and aliases, tags and directives.
-/

namespace LineCalc.Yaml

/-- A tag as it is written: a handle that stands for the beginning of the tag, or no
handle, and the rest. -/
structure WrittenTag where
  handle : Option Text
  suffix : Text
  deriving DecidableEq

/-- An instruction before a document. -/
inductive Directive where
  | version (major : Nat)
  /-- The handle stands for the beginning of a tag. -/
  | tagHandle (handle beginning : Text)
  | other
  deriving DecidableEq

inductive Token where
  | directive (d : Directive)
  | documentStart
  | documentEnd
  | blockList
  | blockMap
  | blockEnd
  | listOpen
  | listClose
  | mapOpen
  | mapClose
  | dash
  | comma
  | key
  | value
  | alias (name : Text)
  | anchor (name : Text)
  | tag (t : WrittenTag)
  | scalar (text : RawText) (isPlain : Bool)
  | streamEnd
  /-- The text cannot be read further. -/
  | fault (f : Fault)
  deriving DecidableEq

/-! ## Anchors and aliases -/

/-- The name at the beginning of a text, and what stands behind it. -/
def readName (s : Text) : Except Fault (Text × Text) :=
  let name := s.takeWhile isNameChar
  if name.isEmpty then .error (.atRest s) else .ok (name, s.drop name.length)

/-- The name of an anchor or an alias. -/
def readAnchor (s : Text) : Except Fault (Text × Text) := do
  let (name, behind) ← readName s
  if endsWord behind || behind.head?.any "?:,]\x7d%@\x60".toList.contains then
    .ok (name, behind)
  else .error .malformed

/-! ## Tags -/

/-- A character of a tag. -/
def isTagChar (c : Char) : Bool :=
  c.isAlphanum || "-;/?:@&=+$,_.!~*'()[]%".toList.contains c

/-- The bytes of a tag in which a percent sign stands before the two digits of a byte. -/
def tagBytes? : Text → Option (List UInt8)
  | [] => some []
  | '%' :: a :: b :: rest =>
    match hexNumber? 2 [a, b] with
    | some n => (tagBytes? rest).map (n.toUInt8 :: ·)
    | none => none
  | '%' :: _ => none
  | c :: rest => (tagBytes? rest).map (c.toNat.toUInt8 :: ·)

/-- The characters of a tag at the beginning of a text, and what stands behind them. -/
def readTagText (s : Text) : Except Fault (Text × Text) :=
  let written := s.takeWhile isTagChar
  let behind := s.drop written.length
  match written, (tagBytes? written).map Text.decode with
  | _ :: _, some (.ok text) => .ok (text, behind)
  | _, _ => .error (.atRest behind)

/-- The handle at the beginning of a text, behind its first exclamation mark. -/
def readHandle (s : Text) : Except Fault (Text × Text) :=
  let name := s.takeWhile isNameChar
  match s.drop name.length with
  | '!' :: behind => .ok ('!' :: name ++ ['!'], behind)
  | rest => .error (.atRest rest)

/-- The tag at the beginning of a text, behind its first exclamation mark. -/
def readTag (s : Text) : Except Fault (WrittenTag × Text) := do
  let (tag, behind) ← match s with
    | '<' :: rest => do
      let (text, behind) ← readTagText rest
      match behind with
      | '>' :: behind => .ok (⟨none, text⟩, behind)
      | rest => .error (.atRest rest)
    | s =>
      if endsWord s then .ok (⟨none, ['!']⟩, s)
      else if (s.takeWhile fun c => c != ' ' && !isBreak c).contains '!' then do
        let (handle, rest) ← readHandle s
        let (text, behind) ← readTagText rest
        .ok (⟨some handle, text⟩, behind)
      else do
        let (text, behind) ← readTagText s
        .ok (⟨some ['!'], text⟩, behind)
  if endsName behind then .ok (tag, behind) else .error .malformed

/-! ## Directives -/

/-- The number at the beginning of a text, and what stands behind it. -/
def readDigits (s : Text) : Except Fault (Nat × Text) :=
  let digits := s.takeWhile Char.isDigit
  if digits.isEmpty then .error (.atRest s)
  else if Text.digitLimit < digits.length then .error (.tooManyDigits digits.length)
  else .ok (Nat.ofDigitChars 10 digits 0, s.drop digits.length)

/-- The version that a directive asks for. -/
def readVersion (s : Text) : Except Fault (Directive × Text) := do
  let (major, rest) ← readDigits (s.dropWhile (· == ' '))
  match rest with
  | '.' :: rest =>
    let (_, behind) ← readDigits rest
    if endsName behind then .ok (.version major, behind) else .error .malformed
  | rest => .error (.atRest rest)

/-- The handle that a directive explains. -/
def readTagHandle (s : Text) : Except Fault (Directive × Text) :=
  match s.dropWhile (· == ' ') with
  | '!' :: rest => do
    let (handle, rest) ←
      if rest.head? = some ' ' then .ok (['!'], rest) else readHandle rest
    let (text, behind) ← readTagText (rest.dropWhile (· == ' '))
    if rest.head? = some ' ' ∧ endsName behind then .ok (.tagHandle handle text, behind)
    else .error .malformed
  | rest => .error (.atRest rest)

/-- The directive at the beginning of a text, behind its percent sign, and the lines
behind it. -/
def readDirective (s : Text) : Except Fault (Directive × Text) := do
  let (name, rest) ← readName s
  if endsName rest then
    let (directive, behind) ←
      if name = "YAML".toList then readVersion rest
      else if name = "TAG".toList then readTagHandle rest
      else .ok (.other, rest.dropWhile fun c => !isBreak c)
    match afterComment? behind with
    | some lines => .ok (directive, lines)
    | none => .error .malformed
  else .error .malformed

end LineCalc.Yaml
