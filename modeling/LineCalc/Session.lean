import LineCalc.Calculator
import LineCalc.Settings

/-!
# Sessions

A session turns each input line into one output line: the value of the line, or the
sentinel if the line is rejected.  It counts lines and rejected lines, and with
`haltOnError` it halts at the first rejected line.

* `open?` makes a session from settings and a calculator, either of which may be left
  out; the two must agree on leftover values.
* `processLine` processes a line even after a halt.
* `processLines` and `run` process lines until the session is halted; they differ in
  whether the output lines are given one by one or as one text with line feeds.

`Session.Action` names the operations on a session and on its calculator, so that a
history of them is a list.
-/

namespace LineCalc

open Text

/-- A session under way. -/
structure Session where
  settings : Settings
  calculator : Calculator
  halted : Bool := false
  linesProcessed : Nat := 0
  errors : Nat := 0

/-- The settings of a session and its calculator disagree on leftover values. -/
structure Contradiction where
  calculatorStrict : Bool
  settingsStrict : Bool
  deriving DecidableEq

/-- The disagreement in words. -/
def Contradiction.message (c : Contradiction) : String :=
  s!"Calculator strict={(Scalar.bool c.calculatorStrict).shown} contradicts " ++
    s!"strict_residue={(Scalar.bool c.settingsStrict).shown}"

namespace Session

/-- A session with the given settings and variables. -/
def start (settings : Settings) (env : Environment) : Session :=
  { settings, calculator := ⟨env, settings.strictResidue⟩ }

/-- A session with the given settings and calculator.  Settings that are left out follow
the calculator, and a calculator that is left out follows the settings. -/
def open? : Option Settings → Option Calculator → Except Contradiction Session
  | settings, none => .ok (start (settings.getD {}) .empty)
  | none, some c => .ok (start { strictResidue := c.strict } c.environment)
  | some settings, some c =>
    if settings.strictResidue = c.strict then .ok (start settings c.environment)
    else .error ⟨c.strict, settings.strictResidue⟩

/-- The line feeds and carriage returns at the end of a line do not belong to it. -/
def lineText (line : Text) : Text :=
  trimEnd isLineEnd line

/-- The output for a line, and the session after it. -/
def processLine (s : Session) (line : Text) : Text × Session :=
  match s.calculator.evaluate (lineText line) with
  | (.ok x, c) =>
    (printNumber x, { s with calculator := c, linesProcessed := s.linesProcessed + 1 })
  | (.error _, c) =>
    (s.settings.sentinel,
      { s with
        calculator := c
        linesProcessed := s.linesProcessed + 1
        errors := s.errors + 1
        halted := s.halted || s.settings.haltOnError })

/-- The outputs for lines until the session is halted, and the session after them. -/
def processLines (s : Session) : List Text → List Text × Session
  | [] => ([], s)
  | line :: rest =>
    if s.halted then ([], s)
    else
      let (output, s') := s.processLine line
      let (outputs, s'') := s'.processLines rest
      (output :: outputs, s'')

/-- Output lines as one text, with a line feed behind each. -/
def written (outputs : List Text) : Text :=
  outputs.flatMap fun output => output ++ ['\n']

/-- The text that is written for lines until the session is halted, and the session
after them. -/
def run (s : Session) : List Text → Text × Session
  | [] => ([], s)
  | line :: rest =>
    if s.halted then ([], s)
    else
      let (output, s') := s.processLine line
      let (text, s'') := s'.run rest
      (output ++ '\n' :: text, s'')

/-- The lines of a text that ends lines with line feeds alone.  Each line but the last
has a line feed at its end, and the last is not empty. -/
def feedLines : Text → List Text
  | [] => []
  | c :: rest =>
    if c = '\n' then [c] :: feedLines rest
    else
      match feedLines rest with
      | [] => [[c]]
      | line :: lines => (c :: line) :: lines

/-! ## Notes -/

/-- What there is to be noted about a line. -/
def lineNotes (s : Session) (line : Text) : List Note :=
  s.calculator.evaluationNotes (lineText line) ++
    match (s.calculator.evaluate (lineText line)).1 with
    | .ok _ => []
    | .error fault => [.rejected (s.linesProcessed + 1) fault]

/-- What there is to be noted about lines until the session is halted. -/
def linesNotes (s : Session) : List Text → List Note
  | [] => []
  | line :: rest =>
    if s.halted then [] else s.lineNotes line ++ (s.processLine line).2.linesNotes rest

/-! ## Histories -/

/-- An operation on a session or on its calculator. -/
inductive Action where
  | processLine (line : Text)
  | processLines (lines : List Text)
  | run (lines : List Text)
  | runText (text : Text)
  | evaluate (line : Text)
  | toPostfix (expression : Text)
  | evaluatePostfix (expression : Text)
  | set (name : Text) (value : Data)
  | clear

/-- What an operation answers. -/
inductive Reply where
  | nothing
  | output (line : Text)
  | outputs (lines : List Text)
  | written (errors : Nat) (text : Text)
  | number (value : Float)
  | refused (fault : Fault)
  | notAssigned (reason : AssignmentError)

/-- The session with another environment. -/
def withEnvironment (s : Session) (env : Environment) : Session :=
  { s with calculator := ⟨env, s.calculator.strict⟩ }

/-- An outcome of the calculator as an answer. -/
def replyOfValue : Except Fault Float → Reply
  | .ok x => .number x
  | .error fault => .refused fault

/-- The answer to an operation, and the session after it. -/
def perform (s : Session) : Action → Reply × Session
  | .processLine line =>
    let (output, s') := s.processLine line
    (.output output, s')
  | .processLines lines =>
    let (outputs, s') := s.processLines lines
    (.outputs outputs, s')
  | .run lines =>
    let (text, s') := s.run lines
    (.written s'.errors text, s')
  | .runText text =>
    let (output, s') := s.run (feedLines text)
    (.written s'.errors output, s')
  | .evaluate line =>
    let (outcome, c) := s.calculator.evaluate line
    (replyOfValue outcome, { s with calculator := c })
  | .toPostfix expression =>
    match Calculator.toPostfixText expression with
    | .ok text => (.output text, s)
    | .error fault => (.refused fault, s)
  | .evaluatePostfix expression =>
    (replyOfValue (s.calculator.evaluatePostfixText expression), s)
  | .set name value =>
    match s.calculator.environment.assignData name value with
    | .ok env => (.nothing, s.withEnvironment env)
    | .error e => (.notAssigned e, s)
  | .clear => (.nothing, s.withEnvironment .empty)

/-- The answers to operations one after another, and the session after them. -/
def performAll (s : Session) : List Action → List Reply × Session
  | [] => ([], s)
  | action :: rest =>
    let (reply, s') := s.perform action
    let (replies, s'') := s'.performAll rest
    (reply :: replies, s'')

/-- What there is to be noted about an operation. -/
def notes (s : Session) : Action → List Note
  | .processLine line => s.lineNotes line
  | .processLines lines => s.linesNotes lines
  | .run lines => s.linesNotes lines
  | .runText text => s.linesNotes (feedLines text)
  | .evaluate line => s.calculator.evaluationNotes line
  | .toPostfix expression => Calculator.conversionNotes expression
  | .evaluatePostfix expression => s.calculator.postfixNotes expression
  | .set _ _ => []
  | .clear => []

end Session

end LineCalc
