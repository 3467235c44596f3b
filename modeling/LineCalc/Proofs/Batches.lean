import LineCalc.Proofs.Verdicts
import LineCalc.Transcript

/-!
# Lines in batches

A session can be given its lines all at once, in batches, or one by one, and each batch can
have its outputs collected or written.  None of this can be told from the outputs and from
the session afterwards.

* What is processed in two parts could have been processed at once (`processLines_append`).
  A session that is halted at the end of the first part has no outputs for the second.
* `shares` lists the outputs of each of several batches with the session after it.  Together
  they are the outputs of all lines (`shares_outputs`), and the answer to a batch is made
  from its share, whichever way it is processed (`performAll_batches`).
* Lines that are processed one by one, unless the session is halted, have the same outputs,
  and none once the session is halted (`processEach_eq`).
-/

namespace LineCalc

namespace Session

/-- A batch of lines, for one of the two ways of processing lines. -/
inductive Batch where
  /-- The outputs are collected. -/
  | collected (lines : List Text)
  /-- The outputs are written as one text. -/
  | written (lines : List Text)

namespace Batch

def lines : Batch → List Text
  | .collected lines => lines
  | .written lines => lines

/-- The operation that processes a batch. -/
def action : Batch → Action
  | .collected lines => .processLines lines
  | .written lines => .run lines

/-- The answer to a batch that has the given outputs: the outputs themselves, or the text
of them with the number of errors that the session has counted. -/
def reply (outputs : List Text) (errors : Nat) : Batch → Reply
  | .collected _ => .outputs outputs
  | .written _ => .written errors (Session.written outputs)

end Batch

/-- The outputs of each batch, and the session after it. -/
def shares (s : Session) : List Batch → List (List Text × Session)
  | [] => []
  | batch :: rest =>
    s.processLines batch.lines :: (s.processLines batch.lines).2.shares rest

/-- The outputs for lines one by one, where there is none once the session is halted, and
the session after them. -/
def processEach (s : Session) : List Text → List (Option Text) × Session
  | [] => ([], s)
  | line :: rest =>
    let (output, s') := s.processUnlessHalted line
    let (outputs, s'') := s'.processEach rest
    (output :: outputs, s'')

/-- Outputs up to the number of lines: where the session was halted there is none. -/
def padded (count : Nat) (outputs : List Text) : List (Option Text) :=
  outputs.map some ++ List.replicate (count - outputs.length) none

/-! ## Two parts -/

theorem processLines_append (s : Session) (first second : List Text) :
    s.processLines (first ++ second) =
      ((s.processLines first).1 ++ ((s.processLines first).2.processLines second).1,
        ((s.processLines first).2.processLines second).2) := by
  induction first generalizing s with
  | nil => rfl
  | cons line first ih =>
    cases hs : s.halted with
    | true =>
      rw [List.cons_append, processLines_of_halted hs, processLines_of_halted hs,
        processLines_of_halted hs]
      rfl
    | false =>
      rw [List.cons_append, processLines_cons hs, processLines_cons hs, ih]
      rfl

/-! ## Batches -/

/-- Either way of processing a batch does what collecting its outputs does. -/
theorem perform_batch (s : Session) (batch : Batch) :
    s.perform batch.action =
      (batch.reply (s.processLines batch.lines).1 (s.processLines batch.lines).2.errors,
        (s.processLines batch.lines).2) := by
  cases batch with
  | collected lines => rfl
  | written lines =>
    show s.perform (.run lines) = _
    rw [perform, run_eq_processLines]
    rfl

theorem shares_outputs (s : Session) (batches : List Batch) :
    (s.shares batches).flatMap Prod.fst =
      (s.processLines (batches.flatMap Batch.lines)).1 := by
  induction batches generalizing s with
  | nil => rfl
  | cons batch rest ih =>
    rw [shares, List.flatMap_cons, List.flatMap_cons, processLines_append, ih]

theorem performAll_batches (s : Session) (batches : List Batch) :
    s.performAll (batches.map Batch.action) =
      (List.zipWith (fun batch share => batch.reply share.1 share.2.errors) batches
          (s.shares batches),
        (s.processLines (batches.flatMap Batch.lines)).2) := by
  induction batches generalizing s with
  | nil => rfl
  | cons batch rest ih =>
    rw [List.map_cons, performAll, perform_batch, List.flatMap_cons, processLines_append, shares,
      List.zipWith_cons_cons]
    simp only [ih]

/-! ## One by one -/

theorem length_processEach (s : Session) (lines : List Text) :
    (s.processEach lines).1.length = lines.length := by
  induction lines generalizing s with
  | nil => rfl
  | cons line rest ih => rw [processEach, List.length_cons, List.length_cons, ih]

theorem processEach_of_halted {s : Session} (hs : s.halted = true) (lines : List Text) :
    s.processEach lines = (List.replicate lines.length none, s) := by
  induction lines with
  | nil => rfl
  | cons line rest ih =>
    rw [processEach, processUnlessHalted, if_pos hs]
    simp only [ih]
    rfl

theorem padded_cons (count : Nat) (output : Text) (outputs : List Text) :
    padded (count + 1) (output :: outputs) = some output :: padded count outputs := by
  simp [padded]

theorem processEach_eq (s : Session) (lines : List Text) :
    s.processEach lines =
      (padded lines.length (s.processLines lines).1, (s.processLines lines).2) := by
  induction lines generalizing s with
  | nil => rfl
  | cons line rest ih =>
    cases hs : s.halted with
    | true =>
      rw [processEach_of_halted hs, processLines_of_halted hs]
      rfl
    | false =>
      have hone : s.processUnlessHalted line =
          (some (s.processLine line).1, (s.processLine line).2) := by
        rw [processUnlessHalted, if_neg (by simp [hs])]
      rw [processEach, hone, processLines_cons hs, List.length_cons, padded_cons]
      simp only [ih]

/-- Lines can be processed in any batches, each with its outputs collected or written, all
at once in either way, or one by one while the session is not halted.  The outputs and the
session afterwards are the same. -/
theorem batching_invisible (s : Session) (batches : List Batch) :
    let lines := batches.flatMap Batch.lines
    let outputs := (s.processLines lines).1
    let final := (s.processLines lines).2
    (s.shares batches).flatMap Prod.fst = outputs ∧
      s.performAll (batches.map Batch.action) =
        (List.zipWith (fun batch share => batch.reply share.1 share.2.errors) batches
          (s.shares batches), final) ∧
      s.run lines = (written outputs, final) ∧
      s.processEach lines = (padded lines.length outputs, final) :=
  ⟨s.shares_outputs batches, s.performAll_batches batches, s.run_eq_processLines _,
    s.processEach_eq _⟩

end Session

end LineCalc
