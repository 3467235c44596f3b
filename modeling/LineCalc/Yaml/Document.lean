import LineCalc.Yaml.Node
import LineCalc.Yaml.Scalar

/-!
# Documents

A document describes data by one node.  The values of its nodes are built one after
another: a scalar at once, while a list or a mapping is first put into a queue and filled
with the values of its parts when its turn comes.  So of several faults, the one that is
nested least deeply counts, and of those the first; and a node may be a part of itself.

* `Document.ofGraph` builds the values;
* `Document.data` gives the data that a document describes, as deep as data of this
  program are nested;
* `read` reads the document in a file.
-/

namespace LineCalc.Yaml

/-- The value of a node. -/
inductive Value where
  | scalar (value : Scalar)
  /-- The list or mapping of the node with a number. -/
  | node (number : Nat)
  /-- An entry in a list of entries. -/
  | pair (key value : Value)
  deriving Inhabited

/-- A list or a mapping of values. -/
inductive Collection where
  | list (items : List Value)
  | map (entries : List (Scalar × Value))
  deriving Inhabited

/-- A document whose values have been built. -/
structure Document where
  root : Value
  /-- The lists and mappings by the numbers of their nodes. -/
  collections : Array Collection

/-! ## Building values -/

/-- Values that have been built in part. -/
structure Building where
  graph : Graph
  /-- The number of entries of mappings before any are merged. -/
  entryCount : Nat
  /-- The values by the numbers of their nodes. -/
  values : Array (Option Value)
  collections : Array Collection
  /-- The lists and mappings that have got into the queue, the last one first. -/
  queued : List Nat := []

/-- What builds values. -/
abbrev Builder := StateT Building (Except Fault)

/-- Whether the values of a kind are lists or mappings. -/
def Kind.isCollection : Kind → Bool
  | .list | .map | .set | .pairs => true
  | _ => false

def Kind.hasValues : Kind → Bool
  | .merge | .default | .unknown => false
  | _ => true

/-- The scalar of a node. -/
def scalarAt (g : Graph) (n : Nat) : Except Fault Scalar := do
  let kind := g.kind n
  if !kind.hasValues then .error .malformed
  else
    let text ← g.text n
    match kind, (g.node n).content with
    | .moment, .map _ => .error .mappingMoment
    | kind, _ => scalarOf text kind

/-- An entry of a mapping that is being filled.  No two entries have keys with one
identity. -/
structure KeyedValue where
  /-- What makes the key one with itself, whatever it is equal to. -/
  identity : Nat
  key : Scalar
  value : Value

/-- Whether two entries have one key. -/
def KeyedValue.sameKey (a b : KeyedValue) : Bool :=
  a.identity == b.identity || a.key.sameKey b.key

/-- The entries with one more: in the place of an earlier entry with the same key, which
keeps its key, or at the end. -/
def KeyedValue.insert (entry : KeyedValue) : List KeyedValue → List KeyedValue
  | [] => [entry]
  | e :: rest =>
    if e.sameKey entry then { e with value := entry.value } :: rest
    else e :: insert entry rest

/-- The identity of a key: the number of its node, except that all numbers that are written
by the word for what is no number are one. -/
def keyIdentity (g : Graph) (n : Nat) : Nat :=
  match g.kind n, g.text n with
  | .float, .ok s => if writesNan s then g.nodes.size else n
  | _, _ => n

namespace Builder

/-- The value of a node.  Where it is a list or a mapping that has not been met before, it
gets into the queue. -/
def value (n : Nat) : Builder Value := do
  let b ← get
  match b.values.getD n none with
  | some v => return v
  | none =>
    let isCollection := (b.graph.kind n).isCollection
    let v ← if isCollection then pure (.node n) else Value.scalar <$> scalarAt b.graph n
    set { b with
      values := b.values.setIfInBounds n (some v)
      queued := if isCollection then n :: b.queued else b.queued }
    return v

/-- The entries of a mapping, after merging.  A list or a mapping is no key. -/
def entriesOf (n : Nat) : Builder (List (Scalar × Value)) := do
  let b ← get
  match (b.graph.node n).content with
  | .map _ =>
    let graph ← b.graph.merge b.entryCount n
    set { b with graph }
    let entries ← (graph.entries n).foldlM (fun entries (key, item) => do
      match ← value key with
      | .scalar k => return KeyedValue.insert ⟨keyIdentity graph key, k, ← value item⟩ entries
      | _ => throw .malformed) []
    return entries.map fun e => (e.key, e.value)
  | _ => throw .malformed

def itemsOf (n : Nat) : Builder (List Nat) := do
  match ((← get).graph.node n).content with
  | .list items => return items
  | _ => throw .malformed

/-- The entry of a mapping with one entry. -/
def pairOf (n : Nat) : Builder Value := do
  match ((← get).graph.node n).content with
  | .map [(key, item)] => return .pair (← value key) (← value item)
  | _ => throw .malformed

/-- The list or mapping of a node.  A set is the list of its members. -/
def collection (n : Nat) : Builder Collection := do
  match (← get).graph.kind n with
  | .map => return .map (← entriesOf n)
  | .set => return .list ((← entriesOf n).map fun entry => .scalar entry.1)
  | .pairs => return .list (← (← itemsOf n).mapM pairOf)
  | _ => return .list (← (← itemsOf n).mapM value)

/-- Fills the lists and mappings of a queue, with those that get into it on the way.  Each
node gets into the queue once, so `bound` need not be greater than the number of nodes. -/
def fill : (bound : Nat) → (queue : List Nat) → Builder Unit
  | 0, _ => return ()
  | _ + 1, [] => return ()
  | bound + 1, n :: rest => do
    let filled ← collection n
    let queued := (← get).queued
    modify fun b => { b with
      collections := b.collections.setIfInBounds n filled
      queued := [] }
    fill bound (rest ++ queued.reverse)

end Builder

namespace Document

/-- The document without a node. -/
def absent : Document := ⟨.scalar .null, #[]⟩

/-- The document of a graph whose outermost node is `root`. -/
def ofGraph (g : Graph) (root : Nat) : Except Fault Document := do
  let size := g.nodes.size
  let start : Building :=
    { graph := g
      entryCount := g.entryCount
      values := Array.replicate size none
      collections := Array.replicate size (.list []) }
  let build : Builder Value := do
    let v ← Builder.value root
    let queued := (← get).queued
    modify fun b => { b with queued := [] }
    Builder.fill (size + 1) queued
    return v
  let (v, b) ← build.run start
  .ok ⟨v, b.collections⟩

/-! ## Data -/

/-- The data of a value, as deep as `depth` says.  Of what is nested deeper only the kind is
kept. -/
def dataOf (d : Document) : (depth : Nat) → Value → Data
  | _, .scalar s => .scalar s
  | 0, .node n =>
    match d.collections.getD n default with
    | .list _ => .list []
    | .map _ => .map []
  | depth + 1, .node n =>
    match d.collections.getD n default with
    | .list items => .list (items.map fun item => dataOf d depth item)
    | .map entries => .map (entries.map fun (key, item) => (key, dataOf d depth item))
  | 0, .pair _ _ => .list []
  | depth + 1, .pair key item => .list [dataOf d depth key, dataOf d depth item]

/-- How deep a transcript is nested: a mapping with a list of mappings. -/
def dataDepth : Nat := 3

/-- The data that a document describes. -/
def data (d : Document) : Data :=
  d.dataOf dataDepth d.root

/-- The document with a text under a key of its outermost mapping, unless the mapping has
the key. -/
def withDefault (key text : Text) (d : Document) : Document :=
  match d.root with
  | .node n =>
    { d with
      collections := d.collections.modify n fun
        | .map entries =>
          if entries.any fun entry => entry.1.sameKey (.text key) then .map entries
          else .map (entries ++ [(.text key, .scalar (.text text))])
        | .list items => .list items }
  | _ => d

end Document

/-- The document in a file. -/
def read (bytes : List UInt8) : Except Fault Document := do
  let (root, reading) ← readDocument.run { tokens := tokens (Source.ofBytes bytes) }
  match root with
  | some root => Document.ofGraph reading.graph root
  | none => .ok .absent

end LineCalc.Yaml
