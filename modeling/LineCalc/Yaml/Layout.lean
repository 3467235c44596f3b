import LineCalc.Yaml.Block
import LineCalc.Yaml.Plain
import LineCalc.Yaml.Quoted
import LineCalc.Yaml.Source
import LineCalc.Yaml.Token

/-!
# Layout of a document

Indentation gives a document its structure.  A list or a mapping begins where a dash or
a key stands further right than its surroundings, and ends where a line begins further
left.

A key is known only by the colon behind it.  So a `Place` is kept before each token that
may begin a key, and the colon turns the place into the indicator of a key, and into the
beginning of a mapping if one begins there.  A key must stand on one line and within
`keyReach` characters.  What stands where only a key can stand must become one.

`tokens` gives the tokens of a document, up to the first fault if there is one.  Where a
key may still have begun before a fault, the tokens end there: no token is given before it
is known whether it begins a key.
-/

namespace LineCalc.Yaml

/-- A position in a text: what stands behind it, how many characters stand before it,
and in which line and column it is. -/
structure Cursor where
  text : Text
  index : Nat := 0
  line : Nat := 0
  column : Nat := 0

namespace Cursor

/-- The position `n` characters further on. -/
def advance : Nat → Cursor → Cursor
  | 0, cursor => cursor
  | n + 1, cursor =>
    match cursor.text with
    | [] => cursor
    | c :: rest =>
      let column := cursor.column
      if isBreak c then advance n ⟨rest, cursor.index + 1, cursor.line + 1, 0⟩
      else
        advance n ⟨rest, cursor.index + 1, cursor.line,
          if c == byteOrderMark then column else column + 1⟩

/-- The position behind which `rest`, an end of the text, stands. -/
def moveTo (rest : Text) (cursor : Cursor) : Cursor :=
  cursor.advance (cursor.text.length - rest.length)

end Cursor

/-- Where a key may begin. -/
structure Place where
  number : Nat
  /-- Whether nothing but a key can stand here. -/
  required : Bool
  index : Nat
  line : Nat
  column : Nat

/-- What has been read: a token, or a place where a key may begin. -/
inductive Item where
  | token (t : Token)
  | place (number : Nat)

/-- How many characters there may be from the beginning of a key to its colon. -/
def keyReach : Nat := 1024

/-- A document that has been read in part. -/
structure Layout where
  cursor : Cursor
  /-- The columns of the lists and mappings that have begun by indentation, the
  innermost first. -/
  columns : List Nat := []
  /-- Whether a key may begin. -/
  keyAllowed : Bool := true
  /-- Where the innermost key may have begun. -/
  place : Option Place := none
  /-- Where the keys around the open brackets may have begun, the innermost first. -/
  outerPlaces : List (Option Place) := []
  /-- How many places there have been. -/
  places : Nat := 0
  /-- The places that are keys, with whether a mapping begins there. -/
  keys : List (Nat × Bool) := []
  /-- What has been read, the last item first. -/
  items : List Item := []

namespace Layout

/-- Whether the position is within brackets. -/
def inBrackets (l : Layout) : Bool :=
  !l.outerPlaces.isEmpty

/-- The least indentation of what belongs to the innermost list or mapping. -/
def innerIndent (l : Layout) : Nat :=
  match l.columns with
  | [] => 0
  | column :: _ => column + 1

/-- The layout with one more token. -/
def push (t : Token) (l : Layout) : Layout :=
  { l with items := .token t :: l.items }

/-- The layout behind `n` characters. -/
def advance (n : Nat) (l : Layout) : Layout :=
  { l with cursor := l.cursor.advance n }

/-- The layout behind which `rest` stands. -/
def moveTo (rest : Text) (l : Layout) : Layout :=
  { l with cursor := l.cursor.moveTo rest }

/-! ## Indentation -/

/-- Ends the lists and mappings that stand further right than a column. -/
def endBeyond (column : Nat) (l : Layout) : Layout :=
  let ended := l.columns.takeWhile (column < ·)
  { l with
    columns := l.columns.drop ended.length
    items := ended.map (fun _ => Item.token .blockEnd) ++ l.items }

/-- Ends all lists and mappings that have begun by indentation. -/
def endAll (l : Layout) : Layout :=
  { l with
    columns := []
    items := l.columns.map (fun _ => Item.token .blockEnd) ++ l.items }

/-- Begins a list or a mapping at the position, if it stands further right than its
surroundings. -/
def beginHere (start : Token) (l : Layout) : Layout :=
  let column := l.cursor.column
  if l.innerIndent ≤ column then { l.push start with columns := column :: l.columns } else l

/-! ## Keys -/

/-- Gives up the innermost place of a key. -/
def dropPlace (l : Layout) : Except Fault Layout :=
  if l.place.any (·.required) then .error .malformed else .ok { l with place := none }

/-- Keeps the position as a place where a key may begin. -/
def keepPlace (l : Layout) : Except Fault Layout :=
  if l.keyAllowed then do
    let l ← l.dropPlace
    let required := !l.inBrackets && l.columns.head? == some l.cursor.column
    .ok { l with
      place := some
        ⟨l.places, required, l.cursor.index, l.cursor.line, l.cursor.column⟩
      places := l.places + 1
      items := .place l.places :: l.items }
  else .ok l

/-- Whether a colon at the position would be too far from a place. -/
def isStale (l : Layout) (p : Place) : Bool :=
  p.line != l.cursor.line || decide (keyReach < l.cursor.index - p.index)

/-- Gives up the places that are too far away. -/
def dropStale (l : Layout) : Except Fault Layout :=
  let keep (p : Option Place) : Option Place := p.filter fun p => !l.isStale p
  if (l.place :: l.outerPlaces).any (·.any fun p => p.required && l.isStale p) then
    .error .malformed
  else .ok { l with place := keep l.place, outerPlaces := l.outerPlaces.map keep }

/-! ## Tokens by kind -/

/-- A list or a mapping in brackets begins. -/
def openBracket (t : Token) (l : Layout) : Except Fault Layout := do
  let l ← l.keepPlace
  .ok { (l.push t).advance 1 with
    place := none
    outerPlaces := l.place :: l.outerPlaces
    keyAllowed := true }

/-- A list or a mapping in brackets ends. -/
def closeBracket (t : Token) (l : Layout) : Except Fault Layout := do
  let l ← l.dropPlace
  match l.outerPlaces with
  | [] => .error .malformed
  | place :: outer =>
    .ok { (l.push t).advance 1 with place := place, outerPlaces := outer, keyAllowed := false }

def comma (l : Layout) : Except Fault Layout := do
  let l ← l.dropPlace
  .ok { (l.push .comma).advance 1 with keyAllowed := true }

/-- An indicator before which a list or a mapping may begin by indentation. -/
def indicator (t start : Token) (keyAllowed : Bool) (l : Layout) : Except Fault Layout :=
  if !l.inBrackets && !l.keyAllowed then .error .malformed
  else do
    let l := if l.inBrackets then l else l.beginHere start
    let l ← l.dropPlace
    .ok { (l.push t).advance 1 with keyAllowed }

def dash (l : Layout) : Except Fault Layout :=
  l.indicator .dash .blockList true

/-- A question mark, which announces a key. -/
def explicitKey (l : Layout) : Except Fault Layout :=
  l.indicator .key .blockMap !l.inBrackets

/-- A colon.  If a key may have begun, it has. -/
def colon (l : Layout) : Except Fault Layout :=
  match l.place with
  | some p =>
    let begins := !l.inBrackets && decide (l.innerIndent ≤ p.column)
    .ok { (l.push .value).advance 1 with
      place := none
      keys := (p.number, begins) :: l.keys
      columns := if begins then p.column :: l.columns else l.columns
      keyAllowed := false }
  | none => l.indicator .value .blockMap !l.inBrackets

/-- A token that may begin a key, and what stands behind it. -/
def keyToken (read : Except Fault (Token × Text)) (l : Layout) : Except Fault Layout := do
  let l ← l.keepPlace
  let (t, behind) ← read
  .ok { (l.push t).moveTo behind with keyAllowed := false }

/-- A plain scalar.  If a line ends behind it, a key may begin there. -/
def plain (l : Layout) : Except Fault Layout := do
  let l ← l.keepPlace
  let (text, crossed, behind) := readPlain l.inBrackets l.innerIndent l.cursor.text
  .ok { (l.push (.scalar text true)).moveTo behind with keyAllowed := crossed }

/-- A block scalar, whose header is the rest of a line. -/
def block (folded : Bool) (header : Text) (l : Layout) : Except Fault Layout := do
  let l ← l.dropPlace
  let (text, behind) ← readBlock folded (max l.innerIndent 1) header
  let text := RawText.ofText text
  .ok { (l.push (.scalar text false)).moveTo behind with keyAllowed := true }

/-- A token that stands between documents. -/
def boundary (read : Except Fault (Token × Text)) (l : Layout) : Except Fault Layout := do
  let l ← (if l.inBrackets then l else l.endAll).dropPlace
  let (t, behind) ← read
  .ok { (l.push t).moveTo behind with keyAllowed := false }

/-! ## Reading on -/

/-- The blanks, the comments and the line ends before a text are behind the result, and
whether a line has ended. -/
def skipped (inComment ended : Bool) : Text → Text × Bool
  | [] => ([], ended)
  | c :: rest =>
    if isBreak c then skipped false true rest
    else if inComment || c == '#' then skipped true ended rest
    else if c == ' ' then skipped false ended rest
    else (c :: rest, ended)

/-- Fails at the end of the text if the source is cut there. -/
def checkCut (source : Source) (l : Layout) : Except Fault Unit :=
  match l.cursor.text, source.cut with
  | [], some f => .error f
  | _, _ => .ok ()

/-- The layout at the beginning of the next token. -/
def toToken (source : Source) (l : Layout) : Except Fault Layout := do
  let marked := l.cursor.index = 0 ∧ l.cursor.text.head? = some byteOrderMark
  let l := if marked then l.advance 1 else l
  let (behind, ended) := skipped false false l.cursor.text
  let l := l.moveTo behind
  l.checkCut source
  let l ← { l with keyAllowed := l.keyAllowed || (ended && !l.inBrackets) }.dropStale
  .ok (if l.inBrackets then l else l.endBeyond l.cursor.column)

/-- The layout behind the token at the position, of which `c` is the first character and
`rest` stands behind that. -/
def token (c : Char) (rest : Text) (l : Layout) : Except Fault Layout :=
  let atStart := l.cursor.column = 0
  let mayIndicate := l.inBrackets || endsWord rest
  if atStart ∧ c = '%' then
    l.boundary ((readDirective rest).map fun (d, behind) => (.directive d, behind))
  else if atStart ∧ marksDocument (c :: rest) then
    l.boundary (.ok (if c = '-' then .documentStart else .documentEnd, rest.drop 2))
  else if c = '[' then l.openBracket .listOpen
  else if c = '\x7b' then l.openBracket .mapOpen
  else if c = ']' then l.closeBracket .listClose
  else if c = '\x7d' then l.closeBracket .mapClose
  else if c = ',' then l.comma
  else if c = '-' ∧ endsWord rest then l.dash
  else if c = '?' ∧ mayIndicate then l.explicitKey
  else if c = ':' ∧ mayIndicate then l.colon
  else if c = '*' then
    l.keyToken ((readAnchor rest).map fun (name, behind) => (.alias name, behind))
  else if c = '&' then
    l.keyToken ((readAnchor rest).map fun (name, behind) => (.anchor name, behind))
  else if c = '!' then
    l.keyToken ((readTag rest).map fun (t, behind) => (.tag t, behind))
  else if c = '|' ∧ !l.inBrackets then l.block false rest
  else if c = '>' ∧ !l.inBrackets then l.block true rest
  else if c = '\'' then
    l.keyToken ((readSingle rest).map fun (text, behind) => (.scalar text false, behind))
  else if c = '"' then
    l.keyToken ((readDouble rest).map fun (text, behind) => (.scalar text false, behind))
  else if beginsPlain l.inBrackets (c :: rest) then l.plain
  else .error .malformed

/-- The tokens that have been read. -/
def tokens (l : Layout) : List Token :=
  l.items.reverse.flatMap fun
    | .token t => [t]
    | .place number =>
      match l.keys.lookup number with
      | some true => [.blockMap, .key]
      | some false => [.key]
      | none => []

/-- The layout behind the token at the position, of which `c` is the first character and
`rest` stands behind that.  What stands next is looked at. -/
def readToken (source : Source) (c : Char) (rest : Text) (l : Layout) :
    Except Fault Layout := do
  let l ← (l.token c rest).mapError source.explain
  l.checkCut source
  l.dropStale

/-- The layout at the end of the text. -/
def finish (l : Layout) : Except Fault Layout := do
  let l ← (if l.inBrackets then l else l.endAll).dropPlace
  .ok (l.push .streamEnd)

def isPlace (number : Nat) : Item → Bool
  | .place n => n == number
  | .token _ => false

/-- The layout that ends with a fault, before which only such items are left as no place
of a key stands before. -/
def refuse (f : Fault) (l : Layout) : Layout :=
  let known := match (l.place :: l.outerPlaces).reverse.findSome? id with
    | some p => l.items.dropWhile fun item => !isPlace p.number item
    | none => l.items
  { l with items := .token (.fault f) :: known }

/-- The layout at the end of the text, or at the first fault. -/
def readOn (source : Source) (l : Layout) : Layout :=
  match l.toToken source with
  | .error f => l.refuse f
  | .ok l' =>
    match l'.cursor.text with
    | [] =>
      match l'.finish with
      | .error f => l.refuse f
      | .ok last => last
    | c :: rest =>
      match l'.readToken source c rest with
      | .error f => l.refuse f
      | .ok next =>
        if next.cursor.text.length < l.cursor.text.length then readOn source next
        else l.refuse .malformed
termination_by l.cursor.text.length

end Layout

/-- The tokens of a document.  The last one is the end or a fault. -/
def tokens (source : Source) : List Token :=
  (Layout.readOn source { cursor := { text := source.text } }).tokens

end LineCalc.Yaml
