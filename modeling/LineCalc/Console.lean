import LineCalc.Session
import LineCalc.Text.Lines
import LineCalc.Text.Utf8

/-!
# The command line

The command runs a session with the standard settings over the lines of its standard
input and writes one output line for each.

* `inputLines` gives the lines of a sequence of bytes.  An ill-formed sequence becomes
  a replacement character, which no token contains, so that only its line is rejected.
* `Console.run` runs the session over lines, on a console that may fail once: while
  reading, while writing, or while flushing at the end.  A failure of the device, and
  bytes that cannot be decoded, end the command with status one and a note; any other
  failure is passed on.  What has been written before the failure stays written.
* `Reading` is the command on input that comes in parts.  A line is processed when it has
  ended, and the bytes behind the last line end are held back.
-/

namespace LineCalc

/-- The lines of standard input. -/
def inputLines (bytes : List UInt8) : List Text :=
  Text.lines (Text.decodeLossy bytes)

/-- Why a console fails. -/
inductive IOFault where
  /-- The device has failed. -/
  | device (message : String)
  /-- Bytes cannot be decoded. -/
  | undecodable (reason : Text.Utf8Error)
  /-- Anything else. -/
  | other (message : String)

/-- A failure in words. -/
def IOFault.message : IOFault → String
  | .device message => message
  | .undecodable reason => reason.message
  | .other message => message

/-- Where a console fails.  Lines and writes count from zero. -/
inductive FailurePoint where
  /-- Instead of giving a line, or at the end if there is no such line. -/
  | read (line : Nat)
  /-- In place of a write. -/
  | write (index : Nat)
  /-- While flushing. -/
  | flush
  deriving DecidableEq

/-- A failure: where and why. -/
structure Failure where
  point : FailurePoint
  fault : IOFault

/-- How a command ends. -/
inductive Ending where
  /-- With a status and what there is to be noted. -/
  | exit (status : Nat) (notes : List Note)
  /-- With a failure that is passed on. -/
  | escaped (message : String)

/-- What a command has written, and how it ends. -/
structure Outcome where
  output : Text
  ending : Ending

namespace Console

/-- The end of a command that fails. -/
def endingOf : IOFault → Ending
  | .device message => .exit 1 [.ioFailure message]
  | .undecodable reason => .exit 1 [.ioFailure reason.message]
  | .other message => .escaped message

/-- Whether a failure, if there is one, happens at the given point. -/
def failsAt (failure : Option Failure) (reached : FailurePoint → Bool) : Option IOFault :=
  match failure with
  | some f => if reached f.point then some f.fault else none
  | none => none

/-- Whether reading fails before the line `index`. -/
def readFails (index : Nat) : FailurePoint → Bool
  | .read line => line == index
  | _ => false

/-- Whether reading fails at the end, behind `count` lines. -/
def endFails (count : Nat) : FailurePoint → Bool
  | .read line => count ≤ line
  | _ => false

def writeFails (index : Nat) : FailurePoint → Bool
  | .write i => i == index
  | _ => false

/-- The end of a command that has written everything. -/
def flush (failure : Option Failure) : Ending :=
  match failsAt failure (· == .flush) with
  | some fault => endingOf fault
  | none => .exit 0 []

/-- The end of a command that has read all of its `count` lines. -/
def finish (failure : Option Failure) (count : Nat) : Ending :=
  match failsAt failure (endFails count) with
  | some fault => endingOf fault
  | none => flush failure

/-- The outcome of a session over lines that count from `index`. -/
def runFrom (failure : Option Failure) (s : Session) (index : Nat) : List Text → Outcome
  | [] => ⟨[], finish failure index⟩
  | line :: rest =>
    match failsAt failure (readFails index) with
    | some fault => ⟨[], endingOf fault⟩
    | none =>
      if s.halted then ⟨[], flush failure⟩
      else
        let (output, s') := s.processLine line
        match failsAt failure (writeFails index) with
        | some fault => ⟨[], endingOf fault⟩
        | none =>
          let later := runFrom failure s' (index + 1) rest
          ⟨Session.written [output] ++ later.output, later.ending⟩

/-- The outcome of the command over the given lines. -/
def run (lines : List Text) (failure : Option Failure) : Outcome :=
  runFrom failure (Session.start {} .empty) 0 lines

/-- What the command writes for the given bytes. -/
def output (bytes : List UInt8) : Text :=
  (run (inputLines bytes) none).output

end Console

/-! ## Input in parts -/

/-- A command whose input has been read in part. -/
structure Reading where
  session : Session := Session.start {} .empty
  /-- The bytes that have been read of a line that may go on. -/
  held : List UInt8 := []

namespace Reading

/-- What is written when more bytes have been read, and the command after it. -/
def feed (r : Reading) (bytes : List UInt8) : Text × Reading :=
  let (lines, held) := Text.endedLines 10 13 (r.held ++ bytes)
  let (text, session) := r.session.run (lines.map Text.decodeLossy)
  (text, ⟨session, held⟩)

/-- What is written at the end of the input, where no line goes on any more. -/
def finish (r : Reading) : Text :=
  (r.session.run ((Text.cutLines 10 13 r.held).map Text.decodeLossy)).1

end Reading

end LineCalc
