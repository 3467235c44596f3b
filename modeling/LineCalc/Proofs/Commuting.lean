import LineCalc.Proofs.Batches
import LineCalc.Proofs.Dependence

/-!
# Lines that commute

Two lines that follow one another can be swapped if neither assigns a letter that the other
reads, and if they do not assign the same letter.

* `reads` and `writes` list the letters of a line.  Whether a line is legal, and so whether it
  writes, does not depend on the variables (`isOk_evaluate`).
* A line leaves the letters that it does not write as they are (`get_evaluate_of_not_mem`), and
  its outcome depends on the letters that it reads alone (`evaluate_fst_of_reads`).  Hence it has
  the same outcome behind a line that writes none of these (`evaluate_fst_after`).
* Two such lines leave every letter with the same value in either order (`agree_swap`), so that
  the sessions after them are alike and give the same outputs from there on.
-/

namespace LineCalc

namespace Calculator

/-- Whether a line has a value.  The variables do not matter for this. -/
def legal (strict : Bool) (line : Text) : Bool :=
  ((⟨.empty, strict⟩ : Calculator).evaluate line).1.isOk

/-- The letters that are tokens of what is evaluated on a line.  With more than one assignment
sign this is nothing. -/
def reads (line : Text) : List Char :=
  if line.count '=' < 2 then ((tokenTexts (expressionPart line)).filter isVariable).flatten
  else []

/-- The target of a line that is a legal assignment. -/
def writes (strict : Bool) (line : Text) : List Char :=
  if line.count '=' = 1 ∧ legal strict line = true then targetPart line else []

/-! ## What a line reads and writes -/

theorem mem_reads {line : Text} {letter : Char} :
    letter ∈ reads line ↔
      line.count '=' < 2 ∧ isLetter letter = true ∧ [letter] ∈ tokenTexts (expressionPart line) := by
  unfold reads
  split
  · next hsigns =>
    simp only [List.mem_flatten, List.mem_filter, isVariable_iff, hsigns, true_and]
    constructor
    · rintro ⟨s, ⟨hs, d, rfl, hd⟩, hmem⟩
      obtain rfl := List.mem_singleton.1 hmem
      exact ⟨hd, hs⟩
    · rintro ⟨hletter, hmem⟩
      exact ⟨[letter], ⟨hmem, letter, rfl, hletter⟩, List.mem_singleton_self letter⟩
  · next hsigns => simp [hsigns]

theorem isOk_verdict (outcome : Except Fault Float) : (verdict outcome).isOk = outcome.isOk := by
  cases outcome <;> rfl

theorem isOk_evaluate (c : Calculator) (line : Text) :
    (c.evaluate line).1.isOk = legal c.strict line := by
  have hstrict : c.strict = (⟨.empty, c.strict⟩ : Calculator).strict := rfl
  rw [legal, ← isOk_verdict, verdict_evaluate hstrict, isOk_verdict]

/-- A line writes nothing and changes nothing, or it writes one letter. -/
theorem evaluate_writes (c : Calculator) (line : Text) :
    writes c.strict line = [] ∧ (c.evaluate line).2 = c ∨
      ∃ letter x, writes c.strict line = [letter] ∧
        c.evaluate line = (.ok x, ⟨c.environment.set letter x, c.strict⟩) := by
  have heffect := c.effect_evaluate line
  have hlegal := c.isOk_evaluate line
  generalize c.evaluate line = outcome at heffect hlegal
  cases heffect with
  | rejected line fault =>
    refine .inl ⟨?_, rfl⟩
    rw [writes, ← hlegal]
    simp [Except.isOk, Except.toBool]
  | expression hline =>
    refine .inl ⟨?_, rfl⟩
    rw [writes, List.count_eq_zero_of_not_mem hline]
    simp
  | @assignment left right letter x hleft hright hname hletter hvalue =>
    refine .inr ⟨letter, x, ?_, rfl⟩
    rw [writes, ← hlegal, targetPart_assignment hleft, hname]
    simp [List.count_eq_zero_of_not_mem hleft, List.count_eq_zero_of_not_mem hright, Except.isOk,
      Except.toBool]

variable {c : Calculator} {line : Text} {letter : Char}

/-- A line leaves the letters that it does not write as they are. -/
theorem get_evaluate_of_not_mem (h : letter ∉ writes c.strict line) :
    (c.evaluate line).2.environment.get [letter] = c.environment.get [letter] := by
  rcases c.evaluate_writes line with ⟨-, hsame⟩ | ⟨target, x, hwrites, hevaluate⟩
  · rw [hsame]
  · have hother : [letter] ≠ [target] := by
      rw [hwrites] at h
      simpa using h
    rw [hevaluate, Environment.get_set, if_neg hother]

/-- The letter that a line writes has the value of the line. -/
theorem get_evaluate_of_mem (h : letter ∈ writes c.strict line) :
    (c.evaluate line).1 = .ok ((c.evaluate line).2.environment.get [letter]) := by
  rcases c.evaluate_writes line with ⟨hnone, -⟩ | ⟨target, x, hwrites, hevaluate⟩
  · rw [hnone] at h
    cases h
  · rw [hwrites] at h
    obtain rfl := List.mem_singleton.1 h
    rw [hevaluate, Environment.get_set, if_pos rfl]

/-- The outcome of a line depends on the letters that it reads. -/
theorem evaluate_fst_of_reads {c c' : Calculator} (hstrict : c.strict = c'.strict)
    (h : ∀ letter ∈ reads line, c.environment.get [letter] = c'.environment.get [letter]) :
    (c.evaluate line).1 = (c'.evaluate line).1 := by
  by_cases hsigns : line.count '=' < 2
  · refine evaluate_fst_congr hstrict fun letter hletter hmem => ?_
    exact h letter (mem_reads.2 ⟨hsigns, hletter, hmem⟩)
  · have htwo : 2 ≤ line.count '=' := by omega
    rw [c.evaluate_of_two_le htwo, c'.evaluate_of_two_le htwo]

/-! ## Two lines -/

variable {first second : Text}

/-- A line has the same outcome behind one that writes nothing that it reads. -/
theorem evaluate_fst_after (h : (writes c.strict first).Disjoint (reads second)) :
    ((c.evaluate first).2.evaluate second).1 = (c.evaluate second).1 := by
  refine evaluate_fst_of_reads (c.evaluate_strict first) fun letter hletter => ?_
  exact get_evaluate_of_not_mem fun hmem => h hmem hletter

/-- The letters behind two lines of which the second reads nothing that the first writes. -/
theorem get_after (hreads : (writes c.strict first).Disjoint (reads second)) (letter : Char) :
    ((c.evaluate first).2.evaluate second).2.environment.get [letter] =
      if letter ∈ writes c.strict second then (c.evaluate second).2.environment.get [letter]
      else (c.evaluate first).2.environment.get [letter] := by
  have hstrict := c.evaluate_strict first
  split
  · next hmem =>
    have hvalue := get_evaluate_of_mem (c := (c.evaluate first).2) (hstrict ▸ hmem)
    rw [evaluate_fst_after hreads, get_evaluate_of_mem hmem] at hvalue
    exact (Except.ok.inj hvalue).symm
  · next hmem => exact get_evaluate_of_not_mem (hstrict ▸ hmem)

/-- Two lines leave every letter with the same value in either order. -/
theorem agree_swap (hfirst : (writes c.strict first).Disjoint (reads second))
    (hsecond : (writes c.strict second).Disjoint (reads first))
    (hwrites : (writes c.strict first).Disjoint (writes c.strict second)) :
    Agree ((c.evaluate first).2.evaluate second).2.environment
      ((c.evaluate second).2.evaluate first).2.environment := by
  intro letter _
  rw [get_after hfirst, get_after hsecond]
  by_cases hmem : letter ∈ writes c.strict first
  · rw [if_neg fun hmem' => hwrites hmem hmem', if_pos hmem]
  · rw [if_neg hmem]
    split
    · rfl
    · next hmem' => rw [get_evaluate_of_not_mem hmem, get_evaluate_of_not_mem hmem']

end Calculator

namespace Session

open Calculator

/-! ## Two lines of a session -/

variable {s : Session} {first second : Text}

theorem rejects_eq (s : Session) (line : Text) :
    s.rejects line = !legal s.calculator.strict (lineText line) := by
  rw [rejects, isOk_evaluate]

/-- Which lines are rejected does not depend on the lines before them. -/
theorem verdicts_eq (s : Session) (lines : List Text) :
    s.verdicts lines = lines.map s.rejects := by
  induction lines generalizing s with
  | nil => rfl
  | cons line rest ih =>
    rw [verdicts, List.map_cons, ih]
    congr 1
    refine List.map_congr_left fun later _ => ?_
    rw [rejects_eq, rejects_eq, strict_processLine]

/-- Lines in another order are rejected as often. -/
theorem errors_of_perm (hs : s.GoesOn) {lines lines' : List Text} (h : lines.Perm lines') :
    (s.processLines lines).2.errors = (s.processLines lines').2.errors := by
  rw [errors_processLines hs, errors_processLines hs, verdicts_eq, verdicts_eq,
    (h.map s.rejects).count_eq]

theorem linesProcessed_processLines (hs : s.GoesOn) (lines : List Text) :
    (s.processLines lines).2.linesProcessed = s.linesProcessed + lines.length := by
  induction lines generalizing s with
  | nil => rfl
  | cons line rest ih =>
    have hline : (s.processLine line).2.linesProcessed = s.linesProcessed + 1 := by
      rw [processLine_state]
    rw [processLines_cons hs.notHalted, ih (hs.processLine line), hline, List.length_cons]
    omega

/-- A line has the same output behind one that writes nothing that it reads. -/
theorem processLine_fst_after
    (h : (writes s.calculator.strict (lineText first)).Disjoint (reads (lineText second))) :
    ((s.processLine first).2.processLine second).1 = (s.processLine second).1 := by
  rw [processLine_output, processLine_output, processLine_state]
  simp only [evaluate_fst_after h]

/-- The sessions behind two lines in either order are alike. -/
theorem alike_swap (hs : s.GoesOn)
    (hfirst : (writes s.calculator.strict (lineText first)).Disjoint (reads (lineText second)))
    (hsecond : (writes s.calculator.strict (lineText second)).Disjoint (reads (lineText first)))
    (hwrites : (writes s.calculator.strict (lineText first)).Disjoint
      (writes s.calculator.strict (lineText second))) :
    ((s.processLine first).2.processLine second).2.Alike
      ((s.processLine second).2.processLine first).2 := by
  have hhalted := ((hs.processLine first).processLine second).notHalted
  have hhalted' := ((hs.processLine second).processLine first).notHalted
  refine ⟨?_, ?_, hhalted.trans hhalted'.symm, ?_⟩
  · simp only [processLine_state]
  · simp only [strict_processLine]
  · simp only [processLine_state]
    exact agree_swap hfirst hsecond hwrites

/-- Two lines among others, from the session in front of them. -/
theorem processLines_pair (hs : s.GoesOn) (before after : List Text) (first second : Text) :
    let middle := (s.processLines before).2
    let behind := ((middle.processLine first).2.processLine second).2
    s.processLines (before ++ first :: second :: after) =
      ((s.processLines before).1 ++ (middle.processLine first).1 ::
          ((middle.processLine first).2.processLine second).1 :: (behind.processLines after).1,
        (behind.processLines after).2) := by
  intro middle behind
  have hmiddle : middle.GoesOn := hs.processLines before
  rw [processLines_append]
  show (_ ++ (middle.processLines _).1, (middle.processLines _).2) = _
  rw [processLines_cons hmiddle.notHalted, processLines_cons (hmiddle.processLine first).notHalted]

/-- Two adjacent lines of a session that goes on at a rejected line can be swapped, whatever
has been done before, if neither writes a letter that the other reads and if they do not write
the same letter.  Their outputs are swapped, and all others are as before; so are the values of
all letters and the counters at the end. -/
theorem independent_lines_commute {settings : Settings} (hsettings : settings.haltOnError = false)
    (env : Environment) (actions : List Action) (before after : List Text) {first second : Text}
    (hfirst : (writes settings.strictResidue (lineText first)).Disjoint (reads (lineText second)))
    (hsecond : (writes settings.strictResidue (lineText second)).Disjoint
      (reads (lineText first)))
    (hwrites : (writes settings.strictResidue (lineText first)).Disjoint
      (writes settings.strictResidue (lineText second))) :
    let s := ((start settings env).performAll actions).2
    let one := s.processLines (before ++ first :: second :: after)
    let other := s.processLines (before ++ second :: first :: after)
    (∃ outputs o o' later, one.1 = outputs ++ o :: o' :: later ∧
        other.1 = outputs ++ o' :: o :: later ∧
        outputs.length = before.length ∧ later.length = after.length) ∧
      (∀ letter, isLetter letter = true →
        one.2.calculator.environment.get [letter] = other.2.calculator.environment.get [letter]) ∧
      one.2.errors = other.2.errors ∧ one.2.linesProcessed = other.2.linesProcessed := by
  intro s one other
  have hs : s.GoesOn := GoesOn.performAll ⟨hsettings, rfl⟩ actions
  have hmiddle : (s.processLines before).2.GoesOn := hs.processLines before
  have hstrict : (s.processLines before).2.calculator.strict = settings.strictResidue := by
    rw [strict_processLines]
    exact strict_performAll (start settings env) actions
  rw [← hstrict] at hfirst hsecond hwrites
  have hone : one = _ := processLines_pair hs before after first second
  have hother : other = _ := processLines_pair hs before after second first
  obtain ⟨hlater, halike⟩ := (alike_swap hmiddle hfirst hsecond hwrites).processLines after
  have hperm : (before ++ first :: second :: after).Perm (before ++ second :: first :: after) :=
    (List.Perm.swap second first after).append_left before
  refine ⟨⟨(s.processLines before).1, ((s.processLines before).2.processLine first).1,
    ((s.processLines before).2.processLine second).1, _, ?_, ?_, length_processLines hs before,
    length_processLines ((hmiddle.processLine first).processLine second) after⟩, ?_,
    errors_of_perm hs hperm, ?_⟩
  · rw [hone, processLine_fst_after hfirst]
  · rw [hother, processLine_fst_after hsecond, hlater]
  · intro letter hletter
    rw [hone, hother]
    exact halike.letters letter hletter
  · show (s.processLines _).2.linesProcessed = (s.processLines _).2.linesProcessed
    rw [linesProcessed_processLines hs, linesProcessed_processLines hs, hperm.length_eq]

/-- Two lines that read the same letter and write different ones, behind a rejected line. -/
theorem independent_lines_commute_shared :
    let s := ((start {} .empty).performAll
      [.processLine "a = 2".toList, .evaluate "x = a +".toList]).2
    let first := "x = a + 1".toList
    let second := "y = a * a\r\n".toList
    let after := ["x - y".toList, "y x".toList]
    (writes true (lineText first)).Disjoint (reads (lineText second)) ∧
      (writes true (lineText second)).Disjoint (reads (lineText first)) ∧
      (writes true (lineText first)).Disjoint (writes true (lineText second)) ∧
      (s.processLines (first :: second :: after)).2.calculator.environment.get ['x'] =
        (s.processLines (second :: first :: after)).2.calculator.environment.get ['x'] ∧
      (s.processLines (first :: second :: after)).2.errors =
        (s.processLines (second :: first :: after)).2.errors := by
  intro s first second after
  have hwrites : writes true (lineText first) = ['x'] := by decide +kernel
  have hwrites' : writes true (lineText second) = ['y'] := by decide +kernel
  have hreads : reads (lineText first) = ['a'] := by decide +kernel
  have hreads' : reads (lineText second) = ['a', 'a'] := by decide +kernel
  have hfirst : (writes true (lineText first)).Disjoint (reads (lineText second)) := by
    simp [hwrites, hreads']
  have hsecond : (writes true (lineText second)).Disjoint (reads (lineText first)) := by
    simp [hwrites', hreads]
  have hboth : (writes true (lineText first)).Disjoint (writes true (lineText second)) := by
    simp [hwrites, hwrites']
  have hsettings : ({} : Settings).haltOnError = false := rfl
  obtain ⟨-, hletters, herrors, -⟩ := independent_lines_commute hsettings .empty
    [.processLine "a = 2".toList, .evaluate "x = a +".toList] [] after hfirst hsecond hboth
  exact ⟨hfirst, hsecond, hboth, hletters 'x' (by decide), herrors⟩

end Session

end LineCalc
