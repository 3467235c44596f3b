import LineCalc.Session

/-!
# Transcripts

A transcript records a session: its settings, and input lines with the output that is
expected for each.  A step that expects no output stands behind the line at which the
session halts.  The texts of a transcript are raw; a surrogate in an input line is read as
U+FFFD.

* `Transcript.ofData` checks data for a transcript.  Fields that it does not know are
  ignored.
* `replay` runs the steps in a fresh session and reports each step whose output is not
  the expected one.
-/

namespace LineCalc

/-- An input line and the output that is expected for it. -/
structure Step where
  input : RawText
  output : Option RawText
  deriving DecidableEq

/-- A recorded session. -/
structure Transcript where
  name : RawText := RawText.ofText "transcript".toList
  description : RawText := []
  settings : Settings := {}
  steps : List Step := []
  deriving DecidableEq

namespace Step

/-- The kind of record that a step is. -/
def kind : String := "TranscriptStep"

def inputKey : Text := "input".toList

/-- The key of the expected output. -/
def outputKey : Text := "output".toList

/-- A datum that has to be a step. -/
def check : Data → Checked Step
  | .map entries =>
    ((checkField inputKey checkRaw (.fail .missing) entries).both
      (checkField outputKey checkRawOrNull (.ok none) entries)).map
        fun (input, output) => ⟨input, output⟩
  | _ => .fail (.notRecord kind)

end Step

namespace Transcript

/-- The kind of record that a transcript is. -/
def kind : String := "Transcript"

def nameKey : Text := "name".toList

def descriptionKey : Text := "description".toList

def settingsKey : Text := "settings".toList

def stepsKey : Text := "steps".toList

/-- A datum that has to be a transcript. -/
def check : Data → Checked Transcript
  | .map entries =>
    let default : Transcript := {}
    ((checkField nameKey checkRaw (.ok default.name) entries).both
      ((checkField descriptionKey checkRaw (.ok default.description) entries).both
        ((checkField settingsKey Settings.check (.ok default.settings) entries).both
          (checkField stepsKey (checkList Step.check) (.ok default.steps) entries)))).map
            fun (name, description, settings, steps) => ⟨name, description, settings, steps⟩
  | _ => .fail (.notRecord kind)

/-- The transcript that a datum describes. -/
def ofData (d : Data) : Except ValidationError Transcript :=
  (check d).mapError (⟨kind, ·⟩)

end Transcript

/-! ## Replay -/

/-- A step whose output was not the expected one.  Steps count from one. -/
structure Mismatch where
  step : Nat
  input : RawText
  expected : Option RawText
  actual : Option Text
  deriving DecidableEq

/-- What came out of a replay. -/
structure Replay where
  name : RawText
  stepsRun : Nat := 0
  mismatches : List Mismatch := []
  deriving DecidableEq

namespace Replay

/-- The replay after one more step, for which the output was `actual`. -/
def after (r : Replay) (step : Step) (actual : Option Text) : Replay :=
  let count := r.stepsRun + 1
  if actual.map RawText.ofText = step.output then { r with stepsRun := count }
  else
    { r with
      stepsRun := count
      mismatches := r.mismatches ++ [⟨count, step.input, step.output, actual⟩] }

/-- Whether every output was the expected one. -/
def passed (r : Replay) : Bool :=
  r.mismatches.isEmpty

/-- An output, or no output, as it is shown in a summary. -/
def shownOutput : Option RawText → String
  | some output => RawText.quoted output
  | none => "None"

/-- A mismatch in words. -/
def shownMismatch (m : Mismatch) : String :=
  let actual := m.actual.map RawText.ofText
  s!"  Step {m.step} {RawText.quoted m.input}: expected {shownOutput m.expected}, " ++
    s!"got {shownOutput actual}"

/-- A replay in words. -/
def summary (r : Replay) : RawText :=
  let status := if r.passed then "PASSED" else "FAILED"
  let lines := s!": {status}" :: s!"  Steps: {r.stepsRun}" :: r.mismatches.map shownMismatch
  RawText.ofText "Transcript ".toList ++ r.name ++
    RawText.ofText ("\n".intercalate lines).toList

end Replay

namespace Session

/-- The output for a line unless the session is halted, and the session after it. -/
def processUnlessHalted (s : Session) (line : Text) : Option Text × Session :=
  if s.halted then (none, s)
  else
    let (output, s') := s.processLine line
    (some output, s')

/-- The replay after more steps, the session being under way. -/
def replaySteps (s : Session) (r : Replay) : List Step → Replay
  | [] => r
  | step :: rest =>
    let (actual, s') := s.processUnlessHalted step.input.lossy
    s'.replaySteps (r.after step actual) rest

end Session

/-- The replay of a transcript in a fresh session. -/
def replay (t : Transcript) : Replay :=
  (Session.start t.settings .empty).replaySteps { name := t.name } t.steps

end LineCalc
