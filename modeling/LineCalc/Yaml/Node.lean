import LineCalc.Yaml.Graph
import LineCalc.Yaml.Layout

/-!
# Nodes of a document

A document is one node, with the nodes that it consists of.  Before a node, an anchor may
give it a name and a tag may say of what kind it is; an alias stands for the node with the
anchor of its name, which must come before it.

The tokens are read one by one, and a fault among them counts when it is looked at.
`readDocument` reads the one node that the tokens describe.
-/

namespace LineCalc.Yaml

/-- Tokens that have been read in part. -/
structure Reading where
  tokens : List Token
  /-- The names of the anchors, with the numbers of their nodes. -/
  anchors : List (Text × Nat) := []
  graph : Graph := {}

/-- What reads tokens. -/
abbrev NodeReader := StateT Reading (Except Fault)

namespace NodeReader

/-- The next token. -/
def look : NodeReader Token := do
  match (← get).tokens with
  | .fault f :: _ => throw f
  | t :: _ => return t
  | [] => return .streamEnd

/-- Passes the next token. -/
def skip : NodeReader Unit :=
  modify fun r => { r with tokens := r.tokens.drop 1 }

/-- Passes the next token if it is the given one, and says whether it is. -/
def accept (t : Token) : NodeReader Bool := do
  if (← look) = t then
    skip
    return true
  else return false

/-- Passes the next token, which must be the given one. -/
def expect (t : Token) : NodeReader Unit := do
  if ← accept t then return () else throw .malformed

/-- Adds a node.  No two nodes have anchors of one name. -/
def addNode (anchor : Option Text) (node : Node) : NodeReader Nat := do
  let r ← get
  let number := r.graph.nodes.size
  let anchors ← match anchor with
    | none => pure r.anchors
    | some name =>
      if (r.anchors.lookup name).isSome then throw .malformed
      else pure ((name, number) :: r.anchors)
  set { r with anchors, graph := r.graph.add node }
  return number

/-- Adds the node that is read where nothing is written. -/
def addEmpty : NodeReader Nat :=
  addNode none .empty

/-- Says what a node consists of. -/
def fill (number : Nat) (content : Content) : NodeReader Unit :=
  modify fun r => { r with graph := r.graph.setContent number content }

def anchored (name : Text) : NodeReader Nat := do
  match (← get).anchors.lookup name with
  | some number => return number
  | none => throw .malformed

end NodeReader

open NodeReader

/-! ## Properties -/

/-- The tag handles that a document need not explain, with what they stand for. -/
def coreHandles : List (Text × Text) :=
  [(['!'], ['!']), (['!', '!'], coreTags)]

/-- What is written before a node: an anchor and a tag. -/
structure Properties where
  anchor : Option Text := none
  tag : Option Text := none

/-- The tag with what its handle stands for. -/
def WrittenTag.explain (handles : List (Text × Text)) (t : WrittenTag) : Except Fault Text :=
  match t.handle with
  | none => .ok t.suffix
  | some handle =>
    match handles.lookup handle with
    | some beginning => .ok (beginning ++ t.suffix)
    | none => .error .malformed

namespace Properties

/-- The properties before a node, in either order. -/
def read (handles : List (Text × Text)) : NodeReader Properties := do
  match ← look with
  | .anchor name => do
    skip
    match ← look with
    | .tag t => do
      skip
      return ⟨some name, some (← t.explain handles)⟩
    | _ => return ⟨some name, none⟩
  | .tag t => do
    skip
    match ← look with
    | .anchor name => do
      skip
      return ⟨some name, some (← t.explain handles)⟩
    | _ => return ⟨none, some (← t.explain handles)⟩
  | _ => return {}

def any (p : Properties) : Bool :=
  p.anchor.isSome || p.tag.isSome

/-- The kind of a node that is of the kind `own` unless a tag says otherwise. -/
def kindOr (own : Kind) (p : Properties) : Kind :=
  match p.tag with
  | none => own
  | some tag => if tag = openTag then own else .ofTag tag

def scalarKind (text : RawText) (isPlain : Bool) (p : Properties) : Kind :=
  p.kindOr (if isPlain || p.tag.isSome then .ofPlain text else .text)

def addScalar (text : RawText) (isPlain : Bool) (p : Properties) : NodeReader Nat :=
  addNode p.anchor ⟨p.scalarKind text isPlain, .scalar text⟩

end Properties

/-! ## Nodes -/

/-- Where a node stands. -/
inductive Setting where
  /-- Within brackets. -/
  | bracket
  /-- In a list that has begun by indentation. -/
  | block
  /-- In a mapping that has begun by indentation, where a list need not stand further
  right than its key. -/
  | entry
  deriving DecidableEq

/-- How deep nodes may be nested. -/
def depthLimit : Nat := 490

/-- What surrounds a node. -/
structure Surroundings where
  /-- The tag handles with what they stand for. -/
  handles : List (Text × Text)
  /-- How many lists and mappings there are around the node. -/
  depth : Nat := 0

/-- What surrounds the parts of a list or a mapping. -/
def Surroundings.inner (s : Surroundings) : Surroundings :=
  { s with depth := s.depth + 1 }

mutual

/-- Reads a node.  The argument `bound` bounds the depth of the recursion. -/
def readNode (around : Surroundings) : (bound : Nat) → Setting → NodeReader Nat
  | 0, _ => throw .malformed
  | bound + 1, setting => do
    if depthLimit ≤ around.depth then throw .tooDeep
    if let .alias name ← look then
      skip
      anchored name
    else
      let p ← Properties.read around.handles
      let inBlock := setting ≠ .bracket
      match ← look, decide inBlock with
      | .scalar text isPlain, _ =>
        skip
        p.addScalar text isPlain
      | .listOpen, _ =>
        let number ← addNode p.anchor ⟨p.kindOr .list, .list []⟩
        skip
        fill number (.list (← readBracketList around.inner bound true))
        return number
      | .mapOpen, _ =>
        let number ← addNode p.anchor ⟨p.kindOr .map, .map []⟩
        skip
        fill number (.map (← readBracketMap around.inner bound true))
        return number
      | .blockList, true =>
        let number ← addNode p.anchor ⟨p.kindOr .list, .list []⟩
        skip
        fill number (.list (← readItems around.inner bound))
        expect .blockEnd
        return number
      | .blockMap, true =>
        let number ← addNode p.anchor ⟨p.kindOr .map, .map []⟩
        skip
        fill number (.map (← readEntries around.inner bound))
        return number
      | t, _ =>
        if setting = .entry ∧ t = .dash then
          let number ← addNode p.anchor ⟨p.kindOr .list, .list []⟩
          fill number (.list (← readItems around.inner bound))
          return number
        else if p.any then p.addScalar [] true
        else throw .malformed

/-- Reads a node, or the empty node if the next token is one of `stops`. -/
def readUnless (around : Surroundings) (stops : List Token) :
    (bound : Nat) → Setting → NodeReader Nat
  | 0, _ => throw .malformed
  | bound + 1, setting => do
    if stops.contains (← look) then addEmpty else readNode around bound setting

/-- Reads the items that begin with a dash. -/
def readItems (around : Surroundings) : (bound : Nat) → NodeReader (List Nat)
  | 0 => throw .malformed
  | bound + 1 => do
    if ← accept .dash then
      let item ← readUnless around [.dash, .key, .value, .blockEnd] bound .block
      return item :: (← readItems around bound)
    else return []

/-- Reads the entries of a mapping that has begun by indentation, and its end. -/
def readEntries (around : Surroundings) :
    (bound : Nat) → NodeReader (List (Nat × Nat))
  | 0 => throw .malformed
  | bound + 1 => do
    let stops := [.key, .value, .blockEnd]
    if ← accept .key then
      let key ← readUnless around stops bound .entry
      let value ←
        if ← accept .value then readUnless around stops bound .entry else addEmpty
      return (key, value) :: (← readEntries around bound)
    else
      expect .blockEnd
      return []

/-- Reads an entry in brackets that ends before `close` or a comma, from behind the
indicator of its key. -/
def readBracketEntry (around : Surroundings) (close : Token) :
    (bound : Nat) → NodeReader (Nat × Nat)
  | 0 => throw .malformed
  | bound + 1 => do
    let key ← readUnless around [.value, .comma, close] bound .bracket
    let value ←
      if ← accept .value then readUnless around [.comma, close] bound .bracket
      else addEmpty
    return (key, value)

/-- Reads the items of a list in brackets and its end; all items but the first follow a
comma.  An item may be a mapping with one entry. -/
def readBracketList (around : Surroundings) :
    (bound : Nat) → (isFirst : Bool) → NodeReader (List Nat)
  | 0, _ => throw .malformed
  | bound + 1, isFirst => do
    if ← accept .listClose then return []
    else
      unless isFirst do expect .comma
      if ← accept .listClose then return []
      else
        let item ←
          if ← accept .key then
            let number ← addNode none ⟨.map, .map []⟩
            fill number (.map [← readBracketEntry around.inner .listClose bound])
            pure number
          else readNode around bound .bracket
        return item :: (← readBracketList around bound false)

/-- Reads the entries of a mapping in brackets and its end; all entries but the first
follow a comma.  A key alone has the empty node for its value. -/
def readBracketMap (around : Surroundings) :
    (bound : Nat) → (isFirst : Bool) → NodeReader (List (Nat × Nat))
  | 0, _ => throw .malformed
  | bound + 1, isFirst => do
    if ← accept .mapClose then return []
    else
      unless isFirst do expect .comma
      if ← accept .mapClose then return []
      else
        let entry ←
          if ← accept .key then readBracketEntry around .mapClose bound
          else
            let key ← readNode around bound .bracket
            pure (key, ← addEmpty)
        return entry :: (← readBracketMap around bound false)

end

/-! ## Documents -/

/-- The tag handles that directives explain, with those of a document without
directives, and the tokens behind the directives.  A version is asked for at most once
and must be the first, and no handle is explained twice. -/
def handlesOf (hasVersion : Bool) (handles : List (Text × Text)) :
    List Token → Except Fault (List (Text × Text) × List Token)
  | .directive d :: ts =>
    match d with
    | .version major =>
      if hasVersion ∨ major ≠ 1 then .error .malformed else handlesOf true handles ts
    | .tagHandle handle beginning =>
      if (handles.lookup handle).isSome then .error .malformed
      else handlesOf hasVersion ((handle, beginning) :: handles) ts
    | .other => handlesOf hasVersion handles ts
  | ts => .ok (handles ++ coreHandles, ts)

/-- Reads directives and the beginning of a document. -/
def readStart : NodeReader (List (Text × Text)) := do
  let (handles, tokens) ← handlesOf false [] (← get).tokens
  modify fun r => { r with tokens }
  expect .documentStart
  return handles

/-- Tokens behind which a document that has been begun is still empty. -/
def endsDocument : Token → Bool
  | .directive _ | .documentStart | .documentEnd | .streamEnd => true
  | _ => false

/-- Reads the node of a document. -/
def readRoot (handles : List (Text × Text)) : NodeReader Nat := do
  readNode { handles } (3 * (← get).tokens.length + 3) .block

/-- Reads what may follow a document: its end, but no other document. -/
def readEnd : NodeReader Unit := do
  modify fun r => { r with tokens := r.tokens.dropWhile (· = .documentEnd) }
  if (← look) = .streamEnd then return ()
  else
    let _ ← readStart
    throw .malformed

/-- Reads the one node that the tokens describe, unless they describe none. -/
def readDocument : NodeReader (Option Nat) := do
  match ← look with
  | .streamEnd => return none
  | .directive _ | .documentStart =>
    let handles ← readStart
    let root ← if endsDocument (← look) then addEmpty else readRoot handles
    readEnd
    return some root
  | _ =>
    let root ← readRoot coreHandles
    readEnd
    return some root

end LineCalc.Yaml
