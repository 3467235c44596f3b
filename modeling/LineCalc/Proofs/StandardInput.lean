import LineCalc.Console
import LineCalc.Proofs.Assignment
import LineCalc.Proofs.Decoding
import LineCalc.Proofs.Erasure
import LineCalc.Proofs.PostfixText

/-!
# The lines of standard input

The command reads bytes, and a line of ill-formed bytes costs only its own output
(`bad_line_costs_itself`).

* A replacement character is no part of a token, nor is it blank or an assignment sign.  A
  line with one is rejected: for its expression, for its target, or for its assignment signs
  (`exists_fault_of_mem`).
* On a console that does not fail, the command writes the outputs of its session
  (`Console.run_none`).
* The lines that are read are the lines of the bytes, each decoded on its own
  (`inputLines_eq`).
-/

namespace LineCalc

open Text

/-! ## Lines with a character of no token -/

/-- A line with a character of no token is rejected, on whichever side of an assignment sign
it stands.  Blanks may surround a target. -/
theorem Calculator.exists_fault_of_mem (c : Calculator) {line : Text} {d : Char} (hd : d ∈ line)
    (hexpression : isExpressionChar d = false) (hblank : isBlank d = false) (hsign : d ≠ '=') :
    ∃ fault, (c.evaluate line).1 = .error fault := by
  have hvalue {expression : Text} (hmem : d ∈ expression) :
      ∃ fault, c.infixValue expression = .error fault := by
    obtain ⟨s, hlex⟩ := lex_eq_error_of_mem hmem hexpression
    refine ⟨.rejected (.badToken s), ?_⟩
    rw [infixValue, postfixOfLine, lexLine, hlex]
    rfl
  rcases assignmentSign_cases line with hnone | ⟨left, right, rfl, hleft, hright⟩ | htwo
  · obtain ⟨fault, hfault⟩ := hvalue hd
    exact ⟨fault, by rw [c.evaluate_of_not_mem hnone, hfault]⟩
  · rw [c.evaluate_assignment hleft hright]
    cases hright : c.infixValue right with
    | error fault => exact ⟨fault, rfl⟩
    | ok x =>
      -- The expression has a value, so that the character stands in the target.
      have hmem : d ∈ left := by
        rcases List.mem_append.1 hd with hmem | hmem
        · exact hmem
        · obtain ⟨fault, hfault⟩ := hvalue ((List.mem_cons.1 hmem).resolve_left hsign)
          rw [hfault] at hright
          cases hright
      have hname : isVariable (targetName left) = false := by
        rw [← Bool.not_eq_true, isVariable_iff]
        rintro ⟨letter, hname, hletter⟩
        have htarget : d ∈ targetName left := mem_trim hmem hblank
        rw [hname, List.mem_singleton] at htarget
        rw [htarget] at hexpression
        simp [isExpressionChar, hletter] at hexpression
      exact ⟨_, congrArg Prod.fst (c.assign_eq_error hname x)⟩
  · exact ⟨_, by rw [c.evaluate_of_two_le htwo]⟩

/-- A session rejects a line with a replacement character. -/
theorem Session.rejects_of_replacement (s : Session) {line : Text} (h : replacement ∈ line) :
    s.rejects line = true := by
  have hmem : replacement ∈ lineText line := mem_trimEnd h (by decide)
  obtain ⟨fault, hfault⟩ := s.calculator.exists_fault_of_mem hmem (by decide +kernel) (by decide)
    (by decide)
  rw [rejects, hfault]
  rfl

/-! ## The command -/

namespace Console

theorem runFrom_none (s : Session) (index : Nat) (lines : List Text) :
    runFrom none s index lines = ⟨(s.run lines).1, .exit 0 []⟩ := by
  induction lines generalizing s index with
  | nil => rfl
  | cons line rest ih =>
    rw [runFrom, Session.run]
    simp only [failsAt]
    cases hs : s.halted with
    | true => rfl
    | false => simp [ih, Session.written]

/-- A command whose console does not fail writes the outputs of its session. -/
theorem run_none (lines : List Text) :
    run lines none =
      ⟨Session.written ((Session.start {} .empty).processLines lines).1, .exit 0 []⟩ := by
  rw [run, runFrom_none, Session.run_eq_processLines]

end Console

theorem inputLines_eq (bytes : List UInt8) :
    inputLines bytes = (cutLines 10 13 bytes).map decodeLossy :=
  lines_decodeLossy bytes

open Session in
/-- A bad line costs only itself, whatever bytes there are to read.  The command ends with
status zero and writes one line for each line of the bytes.  It is the sentinel just for the
rejected lines, which are all with ill-formed bytes among them, and the others have the
outputs and leave the variables that they have without the rejected ones. -/
theorem bad_line_costs_itself (bytes : List UInt8) :
    let byteLines := cutLines 10 13 bytes
    let lines := byteLines.map decodeLossy
    let s := start {} .empty
    let rejected := s.verdicts lines
    let outputs := (s.processLines lines).1
    Console.run (inputLines bytes) none = ⟨written outputs, .exit 0 []⟩ ∧
      outputs.length = byteLines.length ∧
      (∀ output ∈ outputs, '\n' ∉ output) ∧
      (∀ i : Nat, outputs[i]? = some "CHYBA".toList ↔ rejected[i]? = some true) ∧
      (∀ (i : Nat) (line : List UInt8), byteLines[i]? = some line → IllFormed line →
        outputs[i]? = some "CHYBA".toList) ∧
      (s.processLines (accepted rejected lines)).1 = accepted rejected outputs ∧
      (s.processLines (accepted rejected lines)).2.calculator =
        (s.processLines lines).2.calculator := by
  intro byteLines lines s rejected outputs
  have hs : s.GoesOn := ⟨rfl, rfl⟩
  have hrejected (i : Nat) : outputs[i]? = some "CHYBA".toList ↔ rejected[i]? = some true :=
    getElem?_eq_sentinel_iff hs printNumber_ne_standard lines i
  obtain ⟨haccepted, htwins⟩ := (Twins.refl s).processLines_accepted hs lines
  refine ⟨?_, ?_, ?_, hrejected, ?_, haccepted, htwins.calculator.symm⟩
  · rw [Console.run_none, inputLines_eq]
  · rw [length_processLines hs, List.length_map]
  · intro output houtput hfeed
    obtain ⟨i, hi⟩ := List.mem_iff_getElem?.1 houtput
    rcases getElem?_processLines hs hi with ⟨-, rfl⟩ | ⟨-, x, rfl⟩
    · exact absurd hfeed (by decide)
    · exact absurd (isLineEnd_of_mem_printNumber hfeed) (by decide)
  · intro i line hline hill
    have hdecoded : lines[i]? = some (decodeLossy line) := by
      rw [List.getElem?_map, hline]
      rfl
    exact (hrejected i).2 (verdicts_of_rejects hdecoded fun s' =>
      s'.rejects_of_replacement (replacement_mem_decodeLossy hill))

/-- A byte of no character to the left of an assignment sign, and a line that is not ended. -/
theorem bad_line_costs_itself_target :
    let bytes : List UInt8 := [0x78, 0x3D, 0x32, 0x0D, 0xFF, 0x3D, 0x33, 0x0A, 0x78]
    let lines := (cutLines 10 13 bytes).map decodeLossy
    ((Session.start {} .empty).processLines lines).1[1]? = some "CHYBA".toList ∧
      Console.output bytes = "2.0\nCHYBA\n2.0\n".toList := by
  intro bytes lines
  have hill : IllFormed [0xFF, 0x3D, 0x33] := illFormed_of_head (by decide) _
  have hline : (cutLines 10 13 bytes)[1]? = some [0xFF, 0x3D, 0x33] := by decide +kernel
  obtain ⟨-, -, -, -, hbad, -⟩ := bad_line_costs_itself bytes
  exact ⟨hbad 1 _ hline hill, by decide +kernel⟩

end LineCalc
