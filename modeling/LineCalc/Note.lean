import LineCalc.Token

/-!
# Notes

Beside its output, the program can keep a log.  `Note` lists what there is to be noted;
`level`, `source` and `message` word a note.
-/

namespace LineCalc

/-- What there is to be noted. -/
inductive Note where
  | converted (expression : Text) (postfixText : Text)
  /-- A lenient evaluation has left `count` values below its value. -/
  | discarded (count : Nat) (postfixText : Text)
  /-- A variable has been assigned. -/
  | assigned (name : Text) (value : Float)
  /-- A line has been rejected; lines count from one. -/
  | rejected (line : Nat) (fault : Fault)
  /-- Reading or writing has failed. -/
  | ioFailure (message : String)

namespace Note

/-- How serious a note is. -/
def level : Note → String
  | .ioFailure _ => "ERROR"
  | _ => "DEBUG"

/-- The part of the program that a note comes from. -/
def source : Note → String
  | .converted _ _ => "logic.parser"
  | .discarded _ _ => "logic.evaluator"
  | .assigned _ _ => "calculator"
  | .rejected _ _ => "session"
  | .ioFailure _ => "cli"

def message : Note → String
  | .converted expression postfixText =>
    s!"Converted {Text.quoted expression} to postfix {Text.quoted postfixText}"
  | .discarded count postfixText =>
    s!"Discarding {count} leftover values in {Text.quoted postfixText}"
  | .assigned name value =>
    s!"Assigned {String.ofList name} = {String.ofList (printNumber value)}"
  | .rejected line fault => s!"Rejected line {line} ({fault.label}): {fault.message}"
  | .ioFailure message => s!"I/O error: {message}"

end Note

end LineCalc
