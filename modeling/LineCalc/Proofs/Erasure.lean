import LineCalc.Proofs.Printing
import LineCalc.Proofs.Verdicts

/-!
# Rejected lines

A rejected line costs a session its output and nothing else.

* An output is the sentinel for a rejected line and a printed number for any other
  (`getElem?_processLines`).  No number is printed as the standard sentinel, so that the
  outputs tell the rejected lines (`getElem?_eq_sentinel_iff`).
* A session that goes on ends with the variables that it has without the rejected lines, and
  the other lines have the same outputs (`processLines_accepted`).  What a session does with
  a line depends on its settings and its calculator, and a rejected line changes neither;
  `Twins` is the relation that carries this from line to line.
-/

namespace LineCalc

namespace Session

/-- The entries at the lines that are accepted. -/
def accepted {α : Type} : List Bool → List α → List α
  | true :: verdicts, _ :: entries => accepted verdicts entries
  | false :: verdicts, entry :: entries => entry :: accepted verdicts entries
  | _, _ => []

/-! ## One line -/

/-- Two sessions differ at most in their counters. -/
structure Twins (s s' : Session) : Prop where
  settings : s.settings = s'.settings
  calculator : s.calculator = s'.calculator
  halted : s.halted = s'.halted

variable {s s' : Session}

theorem Twins.refl (s : Session) : s.Twins s :=
  ⟨rfl, rfl, rfl⟩

theorem Twins.goesOn (h : s.Twins s') (hs : s.GoesOn) : s'.GoesOn :=
  ⟨h.settings ▸ hs.settings, h.halted ▸ hs.notHalted⟩

theorem Twins.rejects (h : s.Twins s') (line : Text) : s.rejects line = s'.rejects line := by
  rw [Session.rejects, h.calculator]
  rfl

theorem Twins.processLine_fst (h : s.Twins s') (line : Text) :
    (s.processLine line).1 = (s'.processLine line).1 := by
  rw [processLine_output, processLine_output, h.calculator, h.settings]

theorem Twins.processLine (h : s.Twins s') (line : Text) :
    (s.processLine line).2.Twins (s'.processLine line).2 := by
  rw [processLine_state, processLine_state, h.rejects, h.calculator, h.settings, h.halted]
  exact ⟨rfl, rfl, rfl⟩

theorem fault_of_rejects {line : Text} (h : s.rejects line = true) :
    ∃ fault, s.calculator.evaluate (lineText line) = (.error fault, s.calculator) := by
  rw [rejects] at h
  cases houtcome : s.calculator.evaluate (lineText line) with
  | mk outcome c =>
    cases outcome with
    | ok x =>
      rw [houtcome] at h
      cases h
    | error fault => exact ⟨fault, by rw [Calculator.evaluate_error houtcome]⟩

/-- A session that goes on has counted a rejected line, and that is all. -/
theorem Twins.of_rejects (hs : s.GoesOn) {line : Text} (h : s.rejects line = true) :
    (s.processLine line).2.Twins s := by
  obtain ⟨fault, hfault⟩ := fault_of_rejects h
  rw [processLine_state, hfault]
  refine ⟨rfl, rfl, ?_⟩
  simp [hs.settings]

/-! ## Lines one after another -/

/-- Without the rejected lines the accepted ones have the same outputs, and the variables
end with the same values. -/
theorem Twins.processLines_accepted (h : s.Twins s') (hs : s.GoesOn) (lines : List Text) :
    (s'.processLines (accepted (s.verdicts lines) lines)).1 =
        accepted (s.verdicts lines) (s.processLines lines).1 ∧
      (s.processLines lines).2.Twins
        (s'.processLines (accepted (s.verdicts lines) lines)).2 := by
  induction lines generalizing s s' with
  | nil => exact ⟨rfl, h⟩
  | cons line rest ih =>
    rw [verdicts, processLines_cons hs.notHalted]
    cases hline : s.rejects line with
    | true =>
      have htwins : (s.processLine line).2.Twins s' := by
        have hleft := Twins.of_rejects hs hline
        exact ⟨hleft.settings.trans h.settings, hleft.calculator.trans h.calculator,
          hleft.halted.trans h.halted⟩
      exact ih htwins (hs.processLine line)
    | false =>
      obtain ⟨houtputs, htwins⟩ := ih (h.processLine line) (hs.processLine line)
      rw [accepted, accepted, processLines_cons (h.goesOn hs).notHalted, houtputs,
        h.processLine_fst]
      exact ⟨rfl, htwins⟩

theorem settings_processLine (s : Session) (line : Text) :
    (s.processLine line).2.settings = s.settings := by
  rw [processLine_state]

/-- An output is the sentinel for a rejected line, and a number for any other. -/
theorem getElem?_processLines (hs : s.GoesOn) {lines : List Text} {i : Nat} {output : Text}
    (h : (s.processLines lines).1[i]? = some output) :
    (s.verdicts lines)[i]? = some true ∧ output = s.settings.sentinel ∨
      (s.verdicts lines)[i]? = some false ∧ ∃ x, output = printNumber x := by
  induction lines generalizing s i with
  | nil => cases h
  | cons line rest ih =>
    rw [processLines_cons hs.notHalted] at h
    cases i with
    | zero =>
      obtain rfl : (s.processLine line).1 = output := Option.some.inj h
      rw [processLine_output, verdicts, List.getElem?_cons_zero, rejects]
      cases (s.calculator.evaluate (lineText line)).1 with
      | ok x => exact .inr ⟨rfl, x, rfl⟩
      | error fault => exact .inl ⟨rfl, rfl⟩
    | succ i =>
      have hlater := ih (hs.processLine line) h
      rwa [settings_processLine] at hlater

theorem exists_getElem?_processLines (hs : s.GoesOn) {lines : List Text} {i : Nat} {rejected : Bool}
    (h : (s.verdicts lines)[i]? = some rejected) :
    ∃ output, (s.processLines lines).1[i]? = some output := by
  have hi : i < lines.length := by
    rw [← s.length_verdicts lines]
    exact (List.getElem?_eq_some_iff.1 h).1
  rw [← length_processLines hs] at hi
  exact ⟨_, List.getElem?_eq_getElem hi⟩

theorem verdicts_of_rejects {lines : List Text} {i : Nat} {line : Text} (hline : lines[i]? = some line)
    (h : ∀ s : Session, s.rejects line = true) : (s.verdicts lines)[i]? = some true := by
  induction lines generalizing s i with
  | nil => cases hline
  | cons first rest ih =>
    cases i with
    | zero =>
      obtain rfl : first = line := Option.some.inj hline
      rw [verdicts, h s]
      rfl
    | succ i => exact ih hline

/-- Where no number is printed as the sentinel, the outputs tell the rejected lines. -/
theorem getElem?_eq_sentinel_iff (hs : s.GoesOn)
    (hsentinel : ∀ x, printNumber x ≠ s.settings.sentinel) (lines : List Text) (i : Nat) :
    (s.processLines lines).1[i]? = some s.settings.sentinel ↔
      (s.verdicts lines)[i]? = some true := by
  constructor
  · intro houtput
    rcases getElem?_processLines hs houtput with ⟨hrejected, -⟩ | ⟨-, x, hx⟩
    · exact hrejected
    · exact absurd hx.symm (hsentinel x)
  · intro hrejected
    obtain ⟨output, houtput⟩ := exists_getElem?_processLines hs hrejected
    rcases getElem?_processLines hs houtput with ⟨-, rfl⟩ | ⟨haccepted, -⟩
    · exact houtput
    · rw [hrejected] at haccepted
      cases haccepted

/-- No number is printed as the standard sentinel. -/
theorem printNumber_ne_standard (x : Float) : printNumber x ≠ ({} : Settings).sentinel := by
  intro h
  have hmem : 'C' ∈ printNumber x := by
    rw [h]
    decide
  exact absurd (isPrintedChar_of_mem hmem) (by decide)

end Session

end LineCalc
