import LineCalc.Proofs.Erasure
import LineCalc.Proofs.Legality

/-!
# What a session counts

An `Entry` is a processed line with its outcome and its output.  `ledger` lists the entries of
an operation on a session, and `ledgerAll` those of operations one after another; an operation
on the calculator of the session has none.

* `Follows` says once what an operation can do: it processes a line, it processes lines until
  the session is halted, or it does something to the calculator only (`follows_perform`).
* The counters of a session and its switch are those of its entries (`Accounts`).  Every step
  keeps this, and so does every run (`Accounts.performAll`).
* The outcome of an entry is a value, which is its output, or a rejection, for which its output
  is the sentinel (`Entry.Settled`).  There is no other way for a line to fail.
* The answer to an operation shows the outputs of its entries (`answers_perform`).
-/

namespace LineCalc

/-- A line is rejected or has a value: nothing else can go wrong with it. -/
theorem Calculator.evaluate_ok_or_rejected (c : Calculator) (line : Text) :
    (∃ x, (c.evaluate line).1 = .ok x) ∨ ∃ r, (c.evaluate line).1 = .error (.rejected r) := by
  rcases assignmentSign_cases line with hnone | ⟨left, right, rfl, hleft, hright⟩ | htwo
  · rw [c.evaluate_of_not_mem hnone]
    exact (c.outcome_infixValue line).ok_or_rejected
  · rw [c.evaluate_assignment hleft hright]
    rcases (c.outcome_infixValue right).ok_or_rejected with ⟨x, hx⟩ | ⟨r, hr⟩
    · rw [hx]
      show (∃ y, (c.assign left x).1 = .ok y) ∨ ∃ r, (c.assign left x).1 = .error (.rejected r)
      rw [assign]
      cases c.environment.assign (targetName left) x with
      | ok env => exact .inl ⟨x, rfl⟩
      | error r => exact .inr ⟨r, rfl⟩
    · rw [hr]
      exact .inr ⟨r, rfl⟩
  · rw [c.evaluate_of_two_le htwo]
    exact .inr ⟨_, rfl⟩

namespace Session

/-- A processed line, with its outcome and the output for it. -/
structure Entry where
  line : Text
  outcome : Except Fault Float
  output : Text

namespace Entry

/-- Whether the line has been rejected. -/
def isRejected (entry : Entry) : Bool :=
  match entry.outcome with
  | .error (.rejected _) => true
  | _ => false

/-- The output is the value of the line, or the sentinel for a rejected line. -/
def Settled (sentinel : Text) (entry : Entry) : Prop :=
  (∃ x, entry.outcome = .ok x ∧ entry.output = printNumber x) ∨
    ∃ r, entry.outcome = .error (.rejected r) ∧ entry.output = sentinel

end Entry

/-! ## The entries of operations -/

/-- The entry for a line. -/
def entry (s : Session) (line : Text) : Entry :=
  ⟨line, (s.calculator.evaluate (lineText line)).1, (s.processLine line).1⟩

/-- The entries for lines until the session is halted. -/
def entries (s : Session) : List Text → List Entry
  | [] => []
  | line :: rest => if s.halted then [] else s.entry line :: (s.processLine line).2.entries rest

/-- The entries for the lines that an operation processes. -/
def ledger (s : Session) : Action → List Entry
  | .processLine line => [s.entry line]
  | .processLines lines => s.entries lines
  | .run lines => s.entries lines
  | .runText text => s.entries (feedLines text)
  | .evaluate _ | .toPostfix _ | .evaluatePostfix _ | .set _ _ | .clear => []

/-- The entries for the lines that operations one after another process. -/
def ledgerAll (s : Session) : List Action → List Entry
  | [] => []
  | action :: rest => s.ledger action ++ (s.perform action).2.ledgerAll rest

/-- What an operation can do to a session, with the entries that it makes. -/
inductive Follows (s : Session) : List Entry → Session → Prop where
  | line (line : Text) : Follows s [s.entry line] (s.processLine line).2
  | lines (lines : List Text) : Follows s (s.entries lines) (s.processLines lines).2
  | calculator (c : Calculator) : Follows s [] { s with calculator := c }

/-- The counters of a session are those of its entries, and it is halted just if it halts at
rejected lines and there has been one. -/
structure Accounts (s : Session) (entries : List Entry) : Prop where
  lines : s.linesProcessed = entries.length
  errors : s.errors = entries.countP Entry.isRejected
  halted : s.halted = true ↔ s.settings.haltOnError = true ∧ 0 < s.errors

/-- The entries are for the first of the given lines, and for all of them unless the session is
halted in the end. -/
def Covers (entries : List Entry) (lines : List Text) (after : Session) : Prop :=
  ∃ rest, lines = entries.map Entry.line ++ rest ∧ (rest = [] ∨ after.halted = true)

/-- What the answer to an operation says of its entries: it gives their outputs, and where they
are written, the number of errors at the end.  An operation on the calculator has no entries and
changes the calculator alone. -/
def Answers (s : Session) (entries : List Entry) : Action → Reply × Session → Prop
  | .processLine line, (reply, _) =>
    ∃ output, entries.map Entry.line = [line] ∧ entries.map Entry.output = [output] ∧
      reply = .output output
  | .processLines lines, (reply, after) =>
    Covers entries lines after ∧ reply = .outputs (entries.map Entry.output)
  | .run lines, (reply, after) =>
    Covers entries lines after ∧ reply = .written after.errors (written (entries.map Entry.output))
  | .runText text, (reply, after) =>
    Covers entries (feedLines text) after ∧
      reply = .written after.errors (written (entries.map Entry.output))
  | _, (_, after) => entries = [] ∧ ∃ c, after = { s with calculator := c }

variable {s s' : Session}

theorem entries_cons (hs : s.halted = false) (line : Text) (rest : List Text) :
    s.entries (line :: rest) = s.entry line :: (s.processLine line).2.entries rest := by
  rw [entries, hs]
  rfl

theorem entries_of_halted (hs : s.halted = true) (lines : List Text) : s.entries lines = [] := by
  cases lines with
  | nil => rfl
  | cons line rest => rw [entries, if_pos hs]

theorem isRejected_entry (s : Session) (line : Text) :
    (s.entry line).isRejected = s.rejects line := by
  rw [Entry.isRejected, entry, rejects]
  rcases s.calculator.evaluate_ok_or_rejected (lineText line) with ⟨x, hx⟩ | ⟨r, hr⟩
  · rw [hx]
    rfl
  · rw [hr]
    rfl

theorem settled_entry (s : Session) (line : Text) :
    (s.entry line).Settled s.settings.sentinel := by
  rw [Entry.Settled, entry, processLine_output]
  rcases s.calculator.evaluate_ok_or_rejected (lineText line) with ⟨x, hx⟩ | ⟨r, hr⟩
  · rw [hx]
    exact .inl ⟨x, rfl, rfl⟩
  · rw [hr]
    exact .inr ⟨r, rfl, rfl⟩

/-! ## Lines one after another -/

/-- There is one output for each entry. -/
theorem processLines_fst (s : Session) (lines : List Text) :
    (s.processLines lines).1 = (s.entries lines).map Entry.output := by
  induction lines generalizing s with
  | nil => rfl
  | cons line rest ih =>
    cases hs : s.halted with
    | true =>
      rw [processLines_of_halted hs, entries_of_halted hs]
      rfl
    | false =>
      rw [processLines_cons hs, entries_cons hs, ih]
      rfl

theorem covers_processLines (s : Session) (lines : List Text) :
    Covers (s.entries lines) lines (s.processLines lines).2 := by
  induction lines generalizing s with
  | nil => exact ⟨[], rfl, .inl rfl⟩
  | cons line rest ih =>
    cases hs : s.halted with
    | true =>
      rw [processLines_of_halted hs, entries_of_halted hs]
      exact ⟨line :: rest, rfl, .inr hs⟩
    | false =>
      obtain ⟨left, hlines, hleft⟩ := ih (s.processLine line).2
      rw [processLines_cons hs, entries_cons hs]
      exact ⟨left, congrArg (line :: ·) hlines, hleft⟩

theorem settings_processLines (s : Session) (lines : List Text) :
    (s.processLines lines).2.settings = s.settings := by
  induction lines generalizing s with
  | nil => rfl
  | cons line rest ih =>
    cases hs : s.halted with
    | true => rw [processLines_of_halted hs]
    | false => rw [processLines_cons hs, ih, settings_processLine]

theorem settled_entries (s : Session) (lines : List Text) :
    ∀ entry ∈ s.entries lines, entry.Settled s.settings.sentinel := by
  induction lines generalizing s with
  | nil => exact List.forall_mem_nil _
  | cons line rest ih =>
    cases hs : s.halted with
    | true =>
      rw [entries_of_halted hs]
      exact List.forall_mem_nil _
    | false =>
      rw [entries_cons hs, ← s.settings_processLine line]
      refine List.forall_mem_cons.2 ⟨?_, ih _⟩
      rw [settings_processLine]
      exact s.settled_entry line

/-! ## Operations -/

theorem follows_perform (s : Session) (action : Action) :
    s.Follows (s.ledger action) (s.perform action).2 := by
  have hrun (lines : List Text) : s.Follows (s.entries lines) (s.run lines).2 := by
    rw [run_eq_processLines]
    exact .lines lines
  cases action with
  | processLine line => exact .line line
  | processLines lines => exact .lines lines
  | run lines => exact hrun lines
  | runText text => exact hrun (feedLines text)
  | evaluate line => exact .calculator _
  | toPostfix expression =>
    rw [perform]
    split <;> exact .calculator s.calculator
  | evaluatePostfix expression => exact .calculator s.calculator
  | set name value =>
    rw [perform]
    split
    · exact .calculator _
    · exact .calculator s.calculator
  | clear => exact .calculator _

theorem answers_perform (s : Session) (action : Action) :
    s.Answers (s.ledger action) action (s.perform action) := by
  have hrun (lines : List Text) :
      Covers (s.entries lines) lines (s.run lines).2 ∧
        (s.run lines).1 = written ((s.entries lines).map Entry.output) := by
    rw [run_eq_processLines, processLines_fst]
    exact ⟨s.covers_processLines lines, rfl⟩
  cases action with
  | processLine line => exact ⟨_, rfl, rfl, rfl⟩
  | processLines lines =>
    exact ⟨s.covers_processLines lines, congrArg Reply.outputs (s.processLines_fst lines)⟩
  | run lines => exact ⟨(hrun lines).1, congrArg _ (hrun lines).2⟩
  | runText text => exact ⟨(hrun (feedLines text)).1, congrArg _ (hrun (feedLines text)).2⟩
  | evaluate line => exact ⟨rfl, _, rfl⟩
  | toPostfix expression =>
    rw [perform]
    split <;> exact ⟨rfl, s.calculator, rfl⟩
  | evaluatePostfix expression => exact ⟨rfl, s.calculator, rfl⟩
  | set name value =>
    rw [perform]
    split
    · exact ⟨rfl, _, rfl⟩
    · exact ⟨rfl, s.calculator, rfl⟩
  | clear => exact ⟨rfl, _, rfl⟩

variable {before made : List Entry}

theorem Follows.settings_eq (h : s.Follows made s') : s'.settings = s.settings := by
  cases h with
  | line line => exact s.settings_processLine line
  | lines lines => exact s.settings_processLines lines
  | calculator c => rfl

theorem Follows.settled (h : s.Follows made s') :
    ∀ entry ∈ made, entry.Settled s.settings.sentinel := by
  cases h with
  | line line => exact List.forall_mem_singleton.2 (s.settled_entry line)
  | lines lines => exact s.settled_entries lines
  | calculator c => exact List.forall_mem_nil _

/-! ## The counters -/

theorem accounts_start (settings : Settings) (env : Environment) :
    (start settings env).Accounts [] :=
  ⟨rfl, rfl, by simp [start]⟩

theorem Accounts.processLine (h : s.Accounts before) (line : Text) :
    (s.processLine line).2.Accounts (before ++ [s.entry line]) := by
  have hcount : (before ++ [s.entry line]).countP Entry.isRejected =
      s.errors + if s.rejects line then 1 else 0 := by
    rw [List.countP_append, List.countP_singleton, isRejected_entry, h.errors]
  rw [processLine_state]
  refine ⟨?_, hcount.symm, ?_⟩
  · simp [h.lines]
  · show (s.halted || (s.rejects line && s.settings.haltOnError)) = true ↔
      s.settings.haltOnError = true ∧ 0 < s.errors + if s.rejects line then 1 else 0
    rw [Bool.or_eq_true, h.halted]
    cases s.rejects line with
    | true =>
      simp only [Bool.true_and, if_true, Nat.succ_pos, and_true]
      exact or_iff_right_of_imp And.left
    | false => simp

theorem Accounts.processLines (h : s.Accounts before) (lines : List Text) :
    (s.processLines lines).2.Accounts (before ++ s.entries lines) := by
  induction lines generalizing s before with
  | nil =>
    rw [entries, List.append_nil]
    exact h
  | cons line rest ih =>
    cases hs : s.halted with
    | true =>
      rw [processLines_of_halted hs, entries_of_halted hs, List.append_nil]
      exact h
    | false =>
      rw [processLines_cons hs, entries_cons hs, List.append_cons]
      exact ih (h.processLine line)

theorem Accounts.follows (h : s.Accounts before) (hnext : s.Follows made s') :
    s'.Accounts (before ++ made) := by
  cases hnext with
  | line line => exact h.processLine line
  | lines lines => exact h.processLines lines
  | calculator c =>
    rw [List.append_nil]
    exact ⟨h.lines, h.errors, h.halted⟩

theorem Accounts.performAll (h : s.Accounts before) (actions : List Action) :
    (s.performAll actions).2.Accounts (before ++ s.ledgerAll actions) := by
  induction actions generalizing s before with
  | nil =>
    rw [ledgerAll, List.append_nil]
    exact h
  | cons action rest ih =>
    rw [ledgerAll, ← List.append_assoc]
    exact ih (h.follows (s.follows_perform action))

theorem settled_ledgerAll (s : Session) (actions : List Action) :
    ∀ entry ∈ s.ledgerAll actions, entry.Settled s.settings.sentinel := by
  induction actions generalizing s with
  | nil => exact List.forall_mem_nil _
  | cons action rest ih =>
    have hnext := s.follows_perform action
    rw [ledgerAll, List.forall_mem_append]
    refine ⟨hnext.settled, ?_⟩
    rw [← hnext.settings_eq]
    exact ih _

theorem exists_start_of_open? {settings? : Option Settings} {calculator? : Option Calculator}
    (h : open? settings? calculator? = .ok s) : ∃ settings env, s = start settings env := by
  cases calculator? with
  | none => exact ⟨_, _, (Except.ok.inj h).symm⟩
  | some c =>
    cases settings? with
    | none => exact ⟨_, _, (Except.ok.inj h).symm⟩
    | some settings =>
      rw [open?] at h
      split at h
      · exact ⟨_, _, (Except.ok.inj h).symm⟩
      · cases h

/-- A session accounts for its lines, whatever is done with it and with its calculator.  Its
counters are those of the lines that it has processed, also of those behind a halt; it is halted
just if it halts at rejected lines and there has been one.  Each of these lines has a value or is
rejected, and there is one output for it.  Whatever is done next, the answer gives these outputs,
with the number of errors at the end of a run, and an operation on the calculator changes the
calculator alone. -/
theorem lines_accounted {settings? : Option Settings} {calculator? : Option Calculator}
    {s : Session} (hopen : open? settings? calculator? = .ok s) (actions : List Action) :
    let final := (s.performAll actions).2
    let entries := s.ledgerAll actions
    final.Accounts entries ∧
      (∀ entry ∈ entries, entry.Settled s.settings.sentinel) ∧
      ∀ action, final.Answers (final.ledger action) action (final.perform action) := by
  intro final entries
  obtain ⟨settings, env, rfl⟩ := exists_start_of_open? hopen
  exact ⟨(accounts_start settings env).performAll actions, settled_ledgerAll _ actions,
    final.answers_perform⟩

/-- A line behind the halt counts, lines that are not processed do not, and neither do the
failures of the calculator. -/
theorem lines_accounted_halted :
    let settings : Settings := { haltOnError := true }
    let s := start settings .empty
    let actions : List Action :=
      [.evaluate "x = (".toList, .processLine "1 +".toList, .run ["2".toList, "3".toList],
        .set "A".toList (.text "1".toList), .processLine "4\r\n".toList]
    let final := (s.performAll actions).2
    open? (some settings) (some ⟨.empty, true⟩) = .ok s ∧
      (s.ledgerAll actions).map Entry.output = ["CHYBA".toList, "4.0".toList] ∧
      final.linesProcessed = 2 ∧ final.errors = 1 ∧ final.halted = true ∧
      final.Answers [] (.run ["5".toList]) (final.perform (.run ["5".toList])) := by
  intro settings s actions final
  have hopen : open? (some settings) (some ⟨.empty, true⟩) = .ok s := rfl
  obtain ⟨haccounts, -, hanswers⟩ := lines_accounted hopen actions
  have houtputs : (s.ledgerAll actions).map Entry.output = ["CHYBA".toList, "4.0".toList] := by
    decide +kernel
  have hlines : final.linesProcessed = 2 := by
    rw [haccounts.lines, ← List.length_map Entry.output, houtputs]
    rfl
  have herrors : final.errors = 1 := by
    rw [haccounts.errors]
    decide +kernel
  have hhalted : final.halted = true := by
    rw [haccounts.halted, herrors]
    exact ⟨by decide +kernel, Nat.one_pos⟩
  refine ⟨hopen, houtputs, hlines, herrors, hhalted, ?_⟩
  have hnone : final.ledger (.run ["5".toList]) = [] := entries_of_halted hhalted _
  rw [← hnone]
  exact hanswers (.run ["5".toList])

end Session

end LineCalc
