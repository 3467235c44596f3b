import LineCalc.Text.Raw
import LineCalc.Yaml.Fault
import LineCalc.Yaml.Kind

/-!
# Graphs of nodes

A node is a scalar, a list or a mapping.  The nodes of a document have numbers, and a list
or a mapping names its parts by their numbers, so that a node may be in several places and
even in itself.

* `Graph.text` gives the text of a node that stands for a scalar;
* `Graph.merge` puts the entries of the mappings that a merge key names into the mapping
  around it, before its own entries.
-/

namespace LineCalc.Yaml

/-- What a node consists of. -/
inductive Content where
  | scalar (text : RawText)
  | list (items : List Nat)
  | map (entries : List (Nat × Nat))
  deriving DecidableEq

/-- A node of a document. -/
structure Node where
  kind : Kind
  content : Content
  deriving DecidableEq

/-- The node that is read where nothing is written. -/
def Node.empty : Node := ⟨.null, .scalar []⟩

/-- The nodes of a document, by their numbers. -/
structure Graph where
  nodes : Array Node := #[]

namespace Graph

def node (g : Graph) (n : Nat) : Node :=
  g.nodes.getD n .empty

/-- The kind of a node. -/
def kind (g : Graph) (n : Nat) : Kind :=
  (g.node n).kind

/-- The entries of a mapping. -/
def entries (g : Graph) (n : Nat) : List (Nat × Nat) :=
  match (g.node n).content with
  | .map entries => entries
  | _ => []

/-- The number of all entries of mappings. -/
def entryCount (g : Graph) : Nat :=
  (List.range g.nodes.size).foldl (fun count n => count + (g.entries n).length) 0

/-- The graph with one more node. -/
def add (node : Node) (g : Graph) : Graph :=
  ⟨g.nodes.push node⟩

/-- The graph in which a node consists of something else. -/
def setContent (n : Nat) (content : Content) (g : Graph) : Graph :=
  ⟨g.nodes.modify n fun node => { node with content }⟩

/-- The graph in which a node is of another kind. -/
def setKind (n : Nat) (kind : Kind) (g : Graph) : Graph :=
  ⟨g.nodes.modify n fun node => { node with kind }⟩

/-! ## Texts -/

/-- The text of a node.  A mapping has the text of the value under its first default key.
The first argument bounds how many mappings there are one within another. -/
def textWithin (g : Graph) : (bound : Nat) → (n : Nat) → Except Fault RawText
  | 0, _ => .error .tooDeep
  | bound + 1, n =>
    match (g.node n).content with
    | .scalar text => .ok text
    | .list _ => .error .malformed
    | .map entries =>
      match entries.find? fun entry => g.kind entry.1 = .default with
      | some entry => textWithin g bound entry.2
      | none => .error .malformed

/-- The text of a node. -/
def text (g : Graph) (n : Nat) : Except Fault RawText :=
  g.textWithin (g.nodes.size + 1) n

/-! ## Merging -/

/-- The value under the first merge key of a mapping, and the graph without that entry. -/
def takeMerge? (n : Nat) (g : Graph) : Option (Nat × Graph) :=
  let (before, rest) := (g.entries n).span fun entry => g.kind entry.1 != .merge
  match rest with
  | [] => none
  | entry :: after => some (entry.2, g.setContent n (.map (before ++ after)))

/-- The graph in which the default keys of a mapping are texts. -/
def nameDefaults (n : Nat) (g : Graph) : Graph :=
  let keys := ((g.entries n).map (·.1)).filter fun key => g.kind key = .default
  keys.foldl (fun g key => g.setKind key .text) g

/-- The graph in which a mapping has the entries that its merge keys bring in, after the
entries `brought`, and no merge keys.  The mappings that they name are merged before.  Each
step takes away a merge key, so `bound` need not be greater than the number of entries. -/
def mergeBehind : (bound : Nat) → (brought : List (Nat × Nat)) → (n : Nat) → Graph →
    Except Fault Graph
  | 0, _, _, g => .ok g
  | bound + 1, brought, n, g =>
    match g.takeMerge? n with
    | none => .ok ((g.setContent n (.map (brought ++ g.entries n))).nameDefaults n)
    | some (value, g) =>
      match (g.node value).content with
      | .scalar _ => .error .malformed
      | .map _ => do
        let g ← mergeBehind bound [] value g
        mergeBehind bound (brought ++ g.entries value) n g
      | .list items => do
        let (lists, g) ← items.foldlM (fun (lists, g) item =>
          match (g.node item).content with
          | .map _ => do
            let g ← mergeBehind bound [] item g
            .ok (g.entries item :: lists, g)
          | _ => .error .malformed) ([], g)
        mergeBehind bound (brought ++ lists.flatten) n g

/-- The graph in which a mapping has the entries that its merge keys bring in, where
`count` is at least the number of entries. -/
def merge (count n : Nat) (g : Graph) : Except Fault Graph :=
  mergeBehind (count + 1) [] n g

end Graph

end LineCalc.Yaml
