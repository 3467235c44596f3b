import LineCalc.Session

/-!
# The lines that a session rejects

`processLine_output` and `processLine_state` say what one line does to a session; both read
off whether the line is rejected.  `verdicts` says this of lines one after another.

A session that goes on at a rejected line gives an output for every line, and its counter of
errors goes up by the rejected ones (`errors_processLines`).  The text that a session writes
for lines is its outputs with a line feed behind each, whether or not it halts
(`run_eq_processLines`).

No operation changes whether leftover values are rejected (`strict_performAll`), and none halts
a session that goes on (`GoesOn.performAll`).
-/

namespace LineCalc

namespace Session

/-- Whether a session rejects a line. -/
def rejects (s : Session) (line : Text) : Bool :=
  !(s.calculator.evaluate (lineText line)).1.isOk

/-- Which of the lines are rejected, each by the session after the lines before it. -/
def verdicts (s : Session) : List Text → List Bool
  | [] => []
  | line :: rest => s.rejects line :: (s.processLine line).2.verdicts rest

/-! ## One line -/

theorem processLine_output (s : Session) (line : Text) :
    (s.processLine line).1 =
      match (s.calculator.evaluate (lineText line)).1 with
      | .ok x => printNumber x
      | .error _ => s.settings.sentinel := by
  rw [processLine]
  rcases s.calculator.evaluate (lineText line) with ⟨fault | x, c⟩ <;> rfl

theorem processLine_state (s : Session) (line : Text) :
    (s.processLine line).2 =
      { s with
        calculator := (s.calculator.evaluate (lineText line)).2
        linesProcessed := s.linesProcessed + 1
        errors := s.errors + (if s.rejects line then 1 else 0)
        halted := s.halted || (s.rejects line && s.settings.haltOnError) } := by
  rw [processLine, rejects]
  rcases s.calculator.evaluate (lineText line) with ⟨fault | x, c⟩
  · simp [Except.isOk, Except.toBool]
  · simp [Except.isOk, Except.toBool]

/-! ## Lines one after another -/

theorem processLines_cons {s : Session} (hs : s.halted = false) (line : Text)
    (rest : List Text) :
    s.processLines (line :: rest) =
      ((s.processLine line).1 :: ((s.processLine line).2.processLines rest).1,
        ((s.processLine line).2.processLines rest).2) := by
  rw [processLines, hs]
  rfl

theorem processLines_of_halted {s : Session} (hs : s.halted = true) (lines : List Text) :
    s.processLines lines = ([], s) := by
  cases lines with
  | nil => rfl
  | cons line rest =>
    rw [processLines, hs]
    rfl

/-- A session that goes on at a rejected line is never halted. -/
structure GoesOn (s : Session) : Prop where
  settings : s.settings.haltOnError = false
  notHalted : s.halted = false

theorem GoesOn.processLine {s : Session} (hs : s.GoesOn) (line : Text) :
    (s.processLine line).2.GoesOn := by
  rw [processLine_state]
  exact ⟨hs.settings, by simp [hs.settings, hs.notHalted]⟩

variable {s : Session}

theorem length_processLines (hs : s.GoesOn) (lines : List Text) :
    (s.processLines lines).1.length = lines.length := by
  induction lines generalizing s with
  | nil => rfl
  | cons line rest ih =>
    rw [processLines_cons hs.notHalted, List.length_cons, ih (hs.processLine line),
      List.length_cons]

theorem errors_processLines (hs : s.GoesOn) (lines : List Text) :
    (s.processLines lines).2.errors = s.errors + (s.verdicts lines).count true := by
  induction lines generalizing s with
  | nil => rfl
  | cons line rest ih =>
    have hline : (s.processLine line).2.errors =
        s.errors + (if s.rejects line then 1 else 0) := by rw [processLine_state]
    rw [processLines_cons hs.notHalted, ih (hs.processLine line), hline, verdicts,
      List.count_cons]
    cases s.rejects line with
    | true =>
      simp only [if_true, beq_self_eq_true]
      omega
    | false =>
      simp only [Bool.false_eq_true, if_false, beq_iff_eq]
      omega

theorem length_verdicts (s : Session) (lines : List Text) :
    (s.verdicts lines).length = lines.length := by
  induction lines generalizing s with
  | nil => rfl
  | cons line rest ih => rw [verdicts, List.length_cons, ih, List.length_cons]

theorem verdicts_take (s : Session) (lines : List Text) (count : Nat) :
    s.verdicts (lines.take count) = (s.verdicts lines).take count := by
  induction lines generalizing s count with
  | nil => simp [verdicts]
  | cons line rest ih =>
    cases count with
    | zero => rfl
    | succ count => rw [List.take_succ_cons, verdicts, verdicts, List.take_succ_cons, ih]

/-- What is written for lines is their outputs. -/
theorem run_eq_processLines (s : Session) (lines : List Text) :
    s.run lines = (written (s.processLines lines).1, (s.processLines lines).2) := by
  induction lines generalizing s with
  | nil => rfl
  | cons line rest ih =>
    cases hs : s.halted with
    | true =>
      rw [processLines_of_halted hs, run, hs]
      rfl
    | false =>
      rw [processLines_cons hs, run, hs]
      simp [ih, written]

/-! ## Operations one after another -/

theorem strict_processLine (s : Session) (line : Text) :
    (s.processLine line).2.calculator.strict = s.calculator.strict := by
  rw [processLine_state]
  exact Calculator.evaluate_strict s.calculator (lineText line)

theorem strict_processLines (s : Session) (lines : List Text) :
    (s.processLines lines).2.calculator.strict = s.calculator.strict := by
  induction lines generalizing s with
  | nil => rfl
  | cons line rest ih =>
    cases hs : s.halted with
    | true => rw [processLines_of_halted hs]
    | false => rw [processLines_cons hs, ih, strict_processLine]

theorem strict_perform (s : Session) (action : Action) :
    (s.perform action).2.calculator.strict = s.calculator.strict := by
  cases action with
  | processLine line => exact s.strict_processLine line
  | processLines lines => exact s.strict_processLines lines
  | run lines =>
    show (s.run lines).2.calculator.strict = _
    rw [run_eq_processLines]
    exact s.strict_processLines lines
  | runText text =>
    show (s.run (feedLines text)).2.calculator.strict = _
    rw [run_eq_processLines]
    exact s.strict_processLines (feedLines text)
  | evaluate line => exact Calculator.evaluate_strict s.calculator line
  | toPostfix expression =>
    rw [perform]
    split <;> rfl
  | evaluatePostfix expression => rfl
  | set name value =>
    rw [perform]
    split <;> rfl
  | clear => rfl

theorem strict_performAll (s : Session) (actions : List Action) :
    (s.performAll actions).2.calculator.strict = s.calculator.strict := by
  induction actions generalizing s with
  | nil => rfl
  | cons action rest ih =>
    show ((s.perform action).2.performAll rest).2.calculator.strict = _
    rw [ih, strict_perform]

theorem GoesOn.processLines (hs : s.GoesOn) (lines : List Text) :
    (s.processLines lines).2.GoesOn := by
  induction lines generalizing s with
  | nil => exact hs
  | cons line rest ih =>
    rw [processLines_cons hs.notHalted]
    exact ih (hs.processLine line)

theorem GoesOn.perform (hs : s.GoesOn) (action : Action) : (s.perform action).2.GoesOn := by
  have hlines (lines : List Text) : (s.run lines).2.GoesOn := by
    rw [run_eq_processLines]
    exact hs.processLines lines
  cases action with
  | processLine line => exact hs.processLine line
  | processLines lines => exact hs.processLines lines
  | run lines => exact hlines lines
  | runText text => exact hlines (feedLines text)
  | evaluate line => exact ⟨hs.settings, hs.notHalted⟩
  | toPostfix expression =>
    rw [Session.perform]
    split <;> exact hs
  | evaluatePostfix expression => exact hs
  | set name value =>
    rw [Session.perform]
    split <;> exact ⟨hs.settings, hs.notHalted⟩
  | clear => exact ⟨hs.settings, hs.notHalted⟩

theorem GoesOn.performAll (hs : s.GoesOn) (actions : List Action) :
    (s.performAll actions).2.GoesOn := by
  induction actions generalizing s with
  | nil => exact hs
  | cons action rest ih => exact ih (hs.perform action)

end Session

end LineCalc
