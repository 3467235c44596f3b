import LineCalc.Text.Stream
import LineCalc.Yaml.Character
import LineCalc.Yaml.Fault

/-!
# Sources of documents

A document is read from a file part by part, and only as far as it is needed.  So a part
that cannot be read is no fault before the reading has come to its beginning.  A `Source`
is the text up to such a part and the fault of that part.
-/

namespace LineCalc.Yaml

/-- The text of a document as far as it can be read. -/
structure Source where
  text : Text
  /-- The fault of what follows the text; without one, the text ends there. -/
  cut : Option Fault

namespace Source

/-- The source whose text comes in pieces, with the fault behind them.  A piece with a
character that a document may not hold cannot be read. -/
def ofPieces (cut : Option Fault) : List Text → Source
  | [] => ⟨[], cut⟩
  | piece :: rest =>
    if piece.all isAllowed then
      let source := ofPieces cut rest
      { source with text := piece ++ source.text }
    else ⟨[], some .malformed⟩

/-- The number of parts of a file that are read before a document is begun. -/
def firstParts : Nat := 2

/-- The source in a file. -/
def ofBytes (bytes : List UInt8) : Source :=
  let (parts, error) := Text.parts bytes
  let cut := error.map Fault.undecodable
  if cut.isSome ∧ parts.length < firstParts then ⟨[], cut⟩
  else ofPieces cut ((parts.take firstParts).flatten :: parts.drop firstParts)

/-- The fault of a reading that has come upon a fault of the text. -/
def explain (source : Source) : Fault → Fault
  | .unfinished => source.cut.getD .unfinished
  | fault => fault

end Source

end LineCalc.Yaml
