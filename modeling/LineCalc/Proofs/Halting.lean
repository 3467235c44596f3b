import LineCalc.Proofs.Verdicts

/-!
# Halting at the first rejected line

A session that halts does what a session that goes on does, up to the first rejected line.
The two are compared from any state in which they agree (`processLines_halting`): a line
that is accepted keeps them in agreement, and a rejected line is the last one of the session
that halts.
-/

namespace LineCalc

namespace Session

/-- The session with the switch for halting on. -/
def halting (s : Session) : Session :=
  { s with settings := { s.settings with haltOnError := true } }

/-- The number of lines up to the first that is rejected, this one included. -/
def reach (s : Session) (lines : List Text) : Nat :=
  (s.verdicts lines).idxOf true + 1

variable {s : Session}

theorem rejects_halting (s : Session) (line : Text) : s.halting.rejects line = s.rejects line :=
  rfl

theorem processLine_halting (hs : s.GoesOn) (line : Text) :
    s.halting.processLine line =
      ((s.processLine line).1, { (s.processLine line).2.halting with halted := s.rejects line }) := by
  refine Prod.ext ?_ ?_
  · rw [processLine_output, processLine_output]
    rfl
  · rw [processLine_state, processLine_state, rejects_halting]
    simp [halting, hs.notHalted]

theorem reach_of_rejects {line : Text} (h : s.rejects line = true) (rest : List Text) :
    s.reach (line :: rest) = 1 := by
  rw [reach, verdicts, h, List.idxOf_cons_self]

theorem reach_of_accepts {line : Text} (h : s.rejects line = false) (rest : List Text) :
    s.reach (line :: rest) = (s.processLine line).2.reach rest + 1 := by
  rw [reach, verdicts, h, List.idxOf_cons, reach]
  rfl

/-- A session that halts processes the lines up to the first rejected one as the session
that goes on does. -/
theorem processLines_halting (hs : s.GoesOn) (lines : List Text) :
    s.halting.processLines lines =
      ((s.processLines lines).1.take (s.reach lines),
        { (s.processLines (lines.take (s.reach lines))).2.halting with
          halted := (s.verdicts lines).contains true }) := by
  induction lines generalizing s with
  | nil => simp [processLines, verdicts, halting, hs.notHalted]
  | cons line rest ih =>
    have hnot : s.halting.halted = false := hs.notHalted
    rw [processLines_cons hnot, processLine_halting hs, processLines_cons hs.notHalted]
    cases hline : s.rejects line with
    | true =>
      rw [reach_of_rejects hline, processLines_of_halted rfl, List.take_succ_cons, List.take_zero,
        List.take_succ_cons, List.take_zero, processLines_cons hs.notHalted, verdicts, hline]
      rfl
    | false =>
      have hnext : (s.processLine line).2.GoesOn := hs.processLine line
      have hagree : { (s.processLine line).2.halting with halted := false } =
          (s.processLine line).2.halting := by
        rw [← hnext.notHalted]
        rfl
      rw [hagree, ih hnext, reach_of_accepts hline, List.take_succ_cons, List.take_succ_cons,
        processLines_cons hs.notHalted, verdicts, hline]
      rfl

/-- Up to the first rejected line there is one rejected line, if any. -/
theorem errors_reach (hs : s.GoesOn) (lines : List Text) :
    (s.processLines (lines.take (s.reach lines))).2.errors =
      s.errors + (if true ∈ s.verdicts lines then 1 else 0) := by
  rw [errors_processLines hs, verdicts_take, reach]
  congr 1
  generalize s.verdicts lines = verdicts
  induction verdicts with
  | nil => rfl
  | cons verdict rest ih =>
    cases verdict with
    | true => simp
    | false =>
      rw [List.idxOf_cons]
      simpa using ih

/-- A session that halts at the first rejected line has the outputs of one that goes on, cut
behind that line, and the variables that the other has there.  It has counted one error and
is halted, unless no line is rejected; then it has all outputs, has counted none and is not
halted. -/
theorem halting_truncates (settings : Settings) (env : Environment) (lines : List Text) :
    let goesOn := start { settings with haltOnError := false } env
    let halts := start { settings with haltOnError := true } env
    let verdicts := goesOn.verdicts lines
    let count := verdicts.idxOf true + 1
    let final := (halts.processLines lines).2
    (halts.processLines lines).1 = (goesOn.processLines lines).1.take count ∧
      (true ∉ verdicts → (halts.processLines lines).1 = (goesOn.processLines lines).1) ∧
      halts.run lines = (written ((goesOn.processLines lines).1.take count), final) ∧
      final.calculator.environment =
        (goesOn.processLines (lines.take count)).2.calculator.environment ∧
      final.errors = (if true ∈ verdicts then 1 else 0) ∧
      (final.halted = true ↔ true ∈ verdicts) := by
  intro goesOn halts verdicts count final
  have hgoesOn : goesOn.GoesOn := ⟨rfl, rfl⟩
  have hprocess : halts.processLines lines =
      ((goesOn.processLines lines).1.take count,
        { (goesOn.processLines (lines.take count)).2.halting with
          halted := verdicts.contains true }) := processLines_halting hgoesOn lines
  have hfinal : final = { (goesOn.processLines (lines.take count)).2.halting with
      halted := verdicts.contains true } := congrArg Prod.snd hprocess
  have herrors : (goesOn.processLines (lines.take count)).2.errors =
      0 + (if true ∈ verdicts then 1 else 0) := errors_reach hgoesOn lines
  refine ⟨congrArg Prod.fst hprocess, fun hnone => ?_, ?_, ?_, ?_, ?_⟩
  · have hcount : (goesOn.processLines lines).1.length ≤ count := by
      have hlength : verdicts.length = lines.length := goesOn.length_verdicts lines
      rw [length_processLines hgoesOn, ← hlength]
      show verdicts.length ≤ verdicts.idxOf true + 1
      rw [List.idxOf_eq_length hnone]
      omega
    rw [hprocess, List.take_of_length_le hcount]
  · rw [run_eq_processLines, hprocess, hfinal]
  · rw [hfinal]
    rfl
  · rw [hfinal]
    exact herrors.trans (Nat.zero_add _)
  · rw [hfinal]
    exact List.contains_iff_mem

/-- The output for a rejected line can be that of an accepted one; the verdict tells. -/
theorem halting_truncates_sentinel :
    let settings : Settings := { sentinel := "3.0".toList }
    let lines := ["1 + 2".toList, "x = 2 2".toList, "4".toList]
    ((start { settings with haltOnError := true } .empty).processLines lines).1 =
        ["3.0".toList, "3.0".toList] ∧
      ((start { settings with haltOnError := true } .empty).processLines ["1 + 2".toList]).1 =
        ((start { settings with haltOnError := false } .empty).processLines
          ["1 + 2".toList]).1 := by
  intro settings lines
  refine ⟨?_, ?_⟩
  · rw [(halting_truncates settings .empty lines).1]
    decide +kernel
  · exact (halting_truncates settings .empty ["1 + 2".toList]).2.1 (by decide +kernel)

end Session

end LineCalc
