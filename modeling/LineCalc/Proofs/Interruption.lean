import LineCalc.Proofs.StandardInput

/-!
# A console that fails

A console can fail once: while a line is read, while an output is written, or at the end.  What
the command has written by then are whole lines, the first outputs of its session
(`failure_leaves_lines`).

A failure is the same for the session and for what is left of it, once both count from the next
line.  `FailurePoint.later` counts a point from earlier lines on, so that a failure happens at
the first line or later than it (`FailurePoint.first_or_later`), and the outcome of a run is found
by induction over its lines (`runFrom_failure`).
-/

namespace LineCalc

namespace FailurePoint

/-- The point as it is counted from `count` lines earlier on. -/
def later (count : Nat) : FailurePoint → FailurePoint
  | .read line => .read (line + count)
  | .write index => .write (index + count)
  | .flush => .flush

/-- The number of writes before the point in a run over `count` lines. -/
def writesBefore (count : Nat) : FailurePoint → Nat
  | .read line => min line count
  | .write index => min index count
  | .flush => count

/-- Whether a run over `count` lines comes to the point.  There is a write for each line only,
whereas the end is read and flushed in any case. -/
def isReached (count : Nat) : FailurePoint → Bool
  | .write index => index < count
  | _ => true

theorem first_or_later (point : FailurePoint) :
    point = .read 0 ∨ point = .write 0 ∨ ∃ next : FailurePoint, point = next.later 1 := by
  cases point with
  | read line =>
    cases line with
    | zero => exact .inl rfl
    | succ line => exact .inr (.inr ⟨.read line, rfl⟩)
  | write index =>
    cases index with
    | zero => exact .inr (.inl rfl)
    | succ index => exact .inr (.inr ⟨.write index, rfl⟩)
  | flush => exact .inr (.inr ⟨.flush, rfl⟩)

variable (point : FailurePoint) (count : Nat)

theorem later_later : (point.later 1).later count = point.later (count + 1) := by
  cases point <;> simp [later, Nat.add_right_comm, Nat.add_assoc]

theorem writesBefore_later :
    (point.later 1).writesBefore (count + 1) = point.writesBefore count + 1 := by
  cases point <;> simp [later, writesBefore, Nat.add_min_add_right]

theorem isReached_later : (point.later 1).isReached (count + 1) = point.isReached count := by
  cases point <;> simp [later, isReached]

end FailurePoint

/-- Whether the command deals with a failure itself. -/
def IOFault.isHandled : IOFault → Bool
  | .other _ => false
  | _ => true

namespace Console

open Session

/-! ## How a failure ends the command -/

theorem endingOf_of_isHandled {fault : IOFault} (h : fault.isHandled = true) :
    endingOf fault = .exit 1 [.ioFailure fault.message] := by
  cases fault with
  | device message => rfl
  | undecodable reason => rfl
  | other message => cases h

theorem endingOf_of_not_isHandled {fault : IOFault} (h : fault.isHandled = false) :
    endingOf fault = .escaped fault.message := by
  cases fault with
  | device message => cases h
  | undecodable reason => cases h
  | other message => rfl

theorem endingOf_ne_exit_zero (fault : IOFault) (notes : List Note) :
    endingOf fault ≠ .exit 0 notes := by
  cases hhandled : fault.isHandled with
  | true => simp [endingOf_of_isHandled hhandled]
  | false => simp [endingOf_of_not_isHandled hhandled]

variable {s : Session} {index : Nat}

/-! ## Where a run fails -/

theorem readFails_later (point : FailurePoint) (index : Nat) :
    readFails index (point.later (index + 1)) = false := by
  cases point with
  | read line =>
    rw [FailurePoint.later, readFails, beq_eq_false_iff_ne]
    omega
  | _ => rfl

theorem writeFails_later (point : FailurePoint) (index : Nat) :
    writeFails index (point.later (index + 1)) = false := by
  cases point with
  | write line =>
    rw [FailurePoint.later, writeFails, beq_eq_false_iff_ne]
    omega
  | _ => rfl

/-- Where neither reading nor writing fails, a line is written and the run goes on. -/
theorem runFrom_later (hs : s.halted = false) (point : FailurePoint) (fault : IOFault)
    (line : Text) (rest : List Text) :
    let failure := some ⟨point.later (index + 1), fault⟩
    let next := runFrom failure (s.processLine line).2 (index + 1) rest
    runFrom failure s index (line :: rest) =
      ⟨written [(s.processLine line).1] ++ next.output, next.ending⟩ := by
  intro failure next
  have hread : failsAt failure (readFails index) = none := by
    simp only [failure, failsAt, readFails_later, Bool.false_eq_true, if_false]
  have hwrite : failsAt failure (writeFails index) = none := by
    simp only [failure, failsAt, writeFails_later, Bool.false_eq_true, if_false]
  rw [runFrom, hread, hs]
  simp only [hwrite, Bool.false_eq_true, if_false, next]

theorem runFrom_read (fault : IOFault) (line : Text) (rest : List Text) :
    runFrom (some ⟨.read index, fault⟩) s index (line :: rest) = ⟨[], endingOf fault⟩ := by
  have hread : failsAt (some ⟨.read index, fault⟩) (readFails index) = some fault := by
    simp [failsAt, readFails]
  rw [runFrom, hread]

theorem runFrom_write (hs : s.halted = false) (fault : IOFault) (line : Text)
    (rest : List Text) :
    runFrom (some ⟨.write index, fault⟩) s index (line :: rest) = ⟨[], endingOf fault⟩ := by
  have hread : failsAt (some ⟨.write index, fault⟩) (readFails index) = none := rfl
  have hwrite : failsAt (some ⟨.write index, fault⟩) (writeFails index) = some fault := by
    simp [failsAt, writeFails]
  rw [runFrom, hread, hs]
  simp only [hwrite, Bool.false_eq_true, if_false]

theorem finish_failure (point : FailurePoint) (fault : IOFault) :
    finish (some ⟨point.later index, fault⟩) index =
      if point.isReached 0 then endingOf fault else .exit 0 [] := by
  cases point with
  | read line => simp [finish, failsAt, FailurePoint.later, endFails, FailurePoint.isReached]
  | write line => rfl
  | flush => rfl

/-- The command fails when it comes to the point, and has then written the outputs before it. -/
theorem runFrom_failure (hs : s.GoesOn) (point : FailurePoint) (fault : IOFault)
    (lines : List Text) :
    runFrom (some ⟨point.later index, fault⟩) s index lines =
      ⟨written ((s.processLines lines).1.take (point.writesBefore lines.length)),
        if point.isReached lines.length then endingOf fault else .exit 0 []⟩ := by
  induction lines generalizing s index point with
  | nil =>
    rw [runFrom, finish_failure, processLines, List.take_nil]
    rfl
  | cons line rest ih =>
    rcases point.first_or_later with rfl | rfl | ⟨next, rfl⟩
    · rw [FailurePoint.later, Nat.zero_add, runFrom_read, FailurePoint.writesBefore, Nat.zero_min,
        List.take_zero]
      rfl
    · have hreached : (FailurePoint.write 0).isReached (line :: rest).length = true :=
        decide_eq_true (Nat.succ_pos rest.length)
      rw [FailurePoint.later, Nat.zero_add, runFrom_write hs.notHalted, FailurePoint.writesBefore,
        Nat.zero_min, List.take_zero, if_pos hreached]
      rfl
    · -- From the next line on, the point is one line nearer.
      rw [next.later_later, runFrom_later hs.notHalted, ih (hs.processLine line),
        List.length_cons, next.writesBefore_later, next.isReached_later,
        processLines_cons hs.notHalted, List.take_succ_cons]
      simp [written]

/-! ## The command -/

/-- A failure of the console leaves whole lines, the first outputs of the run without it.  For a
failure to read they are those for the lines that have been read, for a failure to write those
that have been written, and for a failure to flush they are all.  The command ends with status
zero just if it does not come to the failure.  Otherwise it ends with status one and one note if
it deals with such a failure, and passes it on if not. -/
theorem failure_leaves_lines (lines : List Text) (failure : Failure) :
    let outputs := ((Session.start {} .empty).processLines lines).1
    let outcome := run lines (some failure)
    let reached := failure.point.isReached lines.length
    let note := Note.ioFailure failure.fault.message
    run lines none = ⟨written outputs, .exit 0 []⟩ ∧
      outputs.length = lines.length ∧
      outcome.output = written (outputs.take (failure.point.writesBefore lines.length)) ∧
      ((∃ notes, outcome.ending = .exit 0 notes) ↔ reached = false) ∧
      (reached = true → failure.fault.isHandled = true →
        outcome.ending = .exit 1 [note] ∧ note.level = "ERROR") ∧
      (reached = true → failure.fault.isHandled = false →
        outcome.ending = .escaped failure.fault.message) := by
  intro outputs outcome reached note
  have hs : (Session.start {} .empty).GoesOn := ⟨rfl, rfl⟩
  have hzero : failure.point.later 0 = failure.point := by cases failure.point <;> rfl
  have houtcome : outcome =
      ⟨written (outputs.take (failure.point.writesBefore lines.length)),
        if reached then endingOf failure.fault else .exit 0 []⟩ := by
    have hrun : runFrom (some ⟨failure.point.later 0, failure.fault⟩) _ 0 lines = _ :=
      runFrom_failure hs failure.point failure.fault lines
    rw [hzero] at hrun
    exact hrun
  rw [houtcome]
  refine ⟨run_none lines, length_processLines hs lines, rfl, ?_, ?_, ?_⟩
  · cases reached with
    | true => simp [endingOf_ne_exit_zero]
    | false => simp
  · intro hreached hhandled
    rw [if_pos hreached]
    exact ⟨endingOf_of_isHandled hhandled, rfl⟩
  · intro hreached hhandled
    rw [if_pos hreached]
    exact endingOf_of_not_isHandled hhandled

/-- A failure in place of the second write, one to read that is met at the end, and one in place
of a write for which there is no line. -/
theorem failure_leaves_lines_reached :
    let lines := ["1".toList, "x = 2".toList, "(".toList]
    let closed := run lines (some ⟨.write 1, .device "closed"⟩)
    let stopped := run lines (some ⟨.read 5, .other "stopped"⟩)
    let missed := run lines (some ⟨.write 3, .other "missed"⟩)
    (closed.output = "1.0\n".toList ∧ closed.ending = .exit 1 [.ioFailure "closed"]) ∧
      (stopped.output = "1.0\n2.0\nCHYBA\n".toList ∧ stopped.ending = .escaped "stopped") ∧
      (missed.output = stopped.output ∧ ∃ notes, missed.ending = .exit 0 notes) := by
  intro lines closed stopped missed
  obtain ⟨-, -, hclosed, -, hnoted, -⟩ :=
    failure_leaves_lines lines ⟨.write 1, .device "closed"⟩
  obtain ⟨-, -, hstopped, -, -, hescaped⟩ :=
    failure_leaves_lines lines ⟨.read 5, .other "stopped"⟩
  obtain ⟨-, -, hmissed, hzero, -, -⟩ :=
    failure_leaves_lines lines ⟨.write 3, .other "missed"⟩
  exact ⟨⟨hclosed.trans (by decide +kernel), (hnoted rfl rfl).1⟩,
    ⟨hstopped.trans (by decide +kernel), hescaped rfl rfl⟩,
    hmissed.trans hstopped.symm, hzero.2 rfl⟩

end Console

end LineCalc
