import LineCalc.Checked
import LineCalc.Text.Blank

/-!
# Settings

The settings of a session: the line that stands for a rejected line, whether
expressions that leave more than one value are rejected, and whether the session halts
at the first rejected line.

`Settings.ofData` checks data for settings.  Every field may be left out, and there are
no other fields.
-/

namespace LineCalc

/-- The settings of a session. -/
structure Settings where
  /-- The output for a rejected line. -/
  sentinel : Text := ['C', 'H', 'Y', 'B', 'A']
  /-- Whether expressions that leave more than one value are rejected. -/
  strictResidue : Bool := true
  /-- Whether output stops behind the first rejected line. -/
  haltOnError : Bool := false
  deriving DecidableEq

/-- Something wrong with data that should be a record of the named kind. -/
structure ValidationError where
  kind : String
  problems : List Problem
  deriving DecidableEq

namespace Settings

/-- The kind of record that settings are. -/
def kind : String := "CalculatorSettings"

def sentinelKey : Text := "sentinel".toList

/-- The key of the switch for leftover values. -/
def strictKey : Text := "strict_residue".toList

/-- The key of the switch for halting. -/
def haltKey : Text := "halt_on_error".toList

/-- A datum that has to be a sentinel: a text of one line that is not empty. -/
def checkSentinel (d : Data) : Checked Text := do
  let s ← checkText d
  if s.isEmpty then .fail .emptyText
  else if s.any Text.isLineEnd then .fail .severalLines
  else .ok s

/-- Whether a scalar is a text with surrogates. -/
def isBroken : Scalar → Bool
  | .brokenText _ => true
  | _ => false

/-- The settings whose fields are the entries of a mapping. -/
def checkEntries (entries : List (Scalar × Data)) : Checked Settings :=
  let fields :=
    (checkField sentinelKey checkSentinel (.ok ({} : Settings).sentinel) entries).both
      ((checkField strictKey checkBool (.ok ({} : Settings).strictResidue) entries).both
        (checkField haltKey checkBool (.ok ({} : Settings).haltOnError) entries))
  let keys : Checked Unit :=
    match unknownKeys [sentinelKey, strictKey, haltKey] entries with
    | [] => .ok ()
    | problems => .error problems
  (fields.both keys).map fun ((sentinel, strict, halt), _) => ⟨sentinel, strict, halt⟩

/-- A datum that has to be settings.  Where a key has surrogates, nothing else is
reported. -/
def check : Data → Checked Settings
  | .map entries =>
    if entries.any fun entry => isBroken entry.1 then .fail .brokenText
    else checkEntries entries
  | _ => .fail (.notRecord kind)

/-- The settings that a datum describes. -/
def ofData (d : Data) : Except ValidationError Settings :=
  (check d).mapError (⟨kind, ·⟩)

end Settings

end LineCalc
