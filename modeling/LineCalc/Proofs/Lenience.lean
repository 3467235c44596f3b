import LineCalc.Proofs.Dependence
import LineCalc.Proofs.Forests

/-!
# Strict and lenient sessions

A strict calculator rejects an expression that leaves more than one value, and a lenient one
gives the last of the values.  Nothing else tells them apart.

* One expression.  `Lenience` lists the two cases: the calculators have the same outcome, or
  several expressions are left, and the lenient calculator has the value of the last one.
* One line.  Where the strict calculator does not reject a line for leftover operands, the
  lenient one does the same with it (`evaluate_lenient`).  Where it does, the lenient one
  gives or assigns the value of the last expression, or rejects the target of the line
  (`evaluate_lenient_of_leftover`).
* Lines one after another.  `outcomes` lists what the lines come to until the session is
  halted.  As long as no outcome is a rejection for leftover operands, the sessions stay in
  step (`processLines_lenient`).
-/

namespace LineCalc

/-- A rejection for leftover operands. -/
def IsLeftover (outcome : Except Fault Float) : Prop :=
  ∃ count, outcome = .error (.rejected (.leftoverOperands count))

namespace Calculator

/-- The calculator that gives the last of several values. -/
def lenient (c : Calculator) : Calculator :=
  ⟨c.environment, false⟩

/-! ## One expression -/

/-- What a strict and a lenient calculator make of one expression. -/
inductive Lenience (c : Calculator) (expression : Text) : Prop where
  | same (h : c.lenient.infixValue expression = c.infixValue expression)
  | last {before : List Expression} {e : Expression} (hbefore : before ≠ [])
      (hconverted : postfixOfLine expression = .ok (forest (before ++ [e])))
      (hstrict : c.infixValue expression =
        .error (.rejected (.leftoverOperands (before.length + 1))))
      (hlenient : c.lenient.infixValue expression = .ok (e.value c.environment))

variable {c : Calculator}

theorem lenience (hc : c.strict = true) (expression : Text) : Lenience c expression := by
  cases hline : postfixOfLine expression with
  | error fault =>
    refine .same ?_
    rw [c.infixValue_of_postfixOfLine_error hline,
      c.lenient.infixValue_of_postfixOfLine_error hline]
  | ok ps =>
    have hstrict := c.infixValue_of_postfixOfLine hline
    have hlenient := c.lenient.infixValue_of_postfixOfLine hline
    obtain ⟨ts, hlex, hconverted⟩ := postfixOfLine_eq_ok hline
    have hplain := plain_of_toPostfix (belongs_of_lex hlex) hconverted
    cases hstarved : starved? ps with
    | some symbol =>
      refine .same ?_
      rw [hstrict, hlenient, evaluatePostfix_of_starved hplain hstarved,
        evaluatePostfix_of_starved hplain hstarved]
    | none =>
      obtain ⟨trees, hgrow, hspelling, -⟩ := exists_spelling hplain hstarved
      rw [evaluatePostfix_of_growAll hgrow] at hstrict hlenient
      match trees with
      | [] => exact .same (hlenient.trans hstrict.symm)
      | [e] => exact .same (hlenient.trans hstrict.symm)
      | e :: f :: rest =>
        have hforest : forest ((f :: rest).reverse ++ [e]) = ps := by
          rw [← hspelling, spelling, List.reverse_cons (a := e)]
          rfl
        have hcount : (f :: rest).reverse.length + 1 = rest.length + 2 := by simp
        have hbefore : (f :: rest).reverse ≠ [] := by simp
        refine .last hbefore ?_ ?_ hlenient
        · rw [hline, hforest]
        · rw [hstrict, hc, hcount]
          simp [Evaluation.result]

/-- A lenient calculator leaves nothing over. -/
theorem not_isLeftover_lenient (c : Calculator) (expression : Text) :
    ¬ IsLeftover (c.lenient.infixValue expression) := by
  rintro ⟨count, hcount⟩
  have houtcome := c.lenient.outcome_infixValue expression
  generalize hr : c.lenient.infixValue expression = r at hcount houtcome
  cases houtcome with
  | @spelled ts ps trees =>
    match trees with
    | [] => cases hcount
    | [e] => cases hcount
    | e :: f :: rest => cases hcount
  | _ => cases hcount

/-! ## One line -/

theorem evaluate_lenient (hc : c.strict = true) {line : Text}
    (hline : ¬ IsLeftover (c.evaluate line).1) :
    c.lenient.evaluate line = ((c.evaluate line).1, (c.evaluate line).2.lenient) := by
  rcases assignmentSign_cases line with hnone | ⟨left, right, rfl, hleft, hright⟩ | htwo
  · rw [c.evaluate_of_not_mem hnone] at hline ⊢
    rw [c.lenient.evaluate_of_not_mem hnone]
    cases lenience hc line with
    | same h => rw [h]
    | last _ _ hstrict _ => exact absurd ⟨_, hstrict⟩ hline
  · rw [c.evaluate_assignment hleft hright] at hline ⊢
    rw [c.lenient.evaluate_assignment hleft hright]
    cases lenience hc right with
    | same h =>
      rw [h]
      cases c.infixValue right with
      | error fault => rfl
      | ok x =>
        show c.lenient.assign left x = ((c.assign left x).1, (c.assign left x).2.lenient)
        simp only [assign, lenient]
        cases c.environment.assign (targetName left) x <;> rfl
    | last _ _ hstrict _ =>
      rw [hstrict] at hline
      exact absurd ⟨_, rfl⟩ hline
  · rw [c.evaluate_of_two_le htwo, c.lenient.evaluate_of_two_le htwo]

/-- What a calculator does with a line whose expression has the value `x`: the value is given,
or it is assigned to the target, or the target is bad. -/
inductive ValueUse (c : Calculator) (line : Text) (x : Float) : Prop where
  | given (hline : '=' ∉ line) (h : c.evaluate line = (.ok x, c))
  | assigned (hline : line.count '=' = 1) {letter : Char} (htarget : targetPart line = [letter])
      (hletter : isLetter letter = true)
      (h : c.evaluate line = (.ok x, ⟨c.environment.set letter x, c.strict⟩))
  | badTarget (hline : line.count '=' = 1) (htarget : isVariable (targetPart line) = false)
      (h : c.evaluate line = (.error (.rejected (.badTarget (targetPart line))), c))

theorem valueUse {line : Text} (hline : line.count '=' < 2) {x : Float}
    (hvalue : c.infixValue (expressionPart line) = .ok x) : ValueUse c line x := by
  rcases assignmentSign_cases line with hnone | ⟨left, right, rfl, hleft, hright⟩ | htwo
  · rw [expressionPart_of_not_mem hnone] at hvalue
    refine .given hnone ?_
    rw [c.evaluate_of_not_mem hnone, hvalue]
  · have hone : (left ++ '=' :: right).count '=' = 1 := by
      simp [List.count_eq_zero_of_not_mem hleft, List.count_eq_zero_of_not_mem hright]
    have htarget := targetPart_assignment hleft right
    have hassign : c.evaluate (left ++ '=' :: right) = c.assign left x := by
      rw [expressionPart_assignment hleft] at hvalue
      rw [c.evaluate_assignment hleft hright, hvalue]
    by_cases hname : isVariable (targetName left) = true
    · obtain ⟨letter, hname, hletter⟩ := isVariable_iff.1 hname
      refine .assigned hone (htarget.trans hname) hletter ?_
      rw [hassign, c.assign_letter hname hletter]
    · rw [Bool.not_eq_true] at hname
      rw [← htarget] at hname
      refine .badTarget hone hname ?_
      rw [htarget] at hname ⊢
      rw [hassign, c.assign_eq_error hname]
  · omega

/-- A line is rejected for leftover operands where its expression is. -/
theorem infixValue_of_leftover {line : Text} {count : Nat}
    (hline : (c.evaluate line).1 = .error (.rejected (.leftoverOperands count))) :
    line.count '=' < 2 ∧
      c.infixValue (expressionPart line) = .error (.rejected (.leftoverOperands count)) := by
  have hsigns : line.count '=' < 2 := by
    by_contra htwo
    rw [c.evaluate_of_two_le (by omega)] at hline
    simp at hline
  refine ⟨hsigns, ?_⟩
  cases hvalue : c.infixValue (expressionPart line) with
  | ok x =>
    cases valueUse hsigns hvalue with
    | given _ h => simp [h] at hline
    | assigned _ _ _ h => simp [h] at hline
    | badTarget _ _ h => simp [h] at hline
  | error fault =>
    cases form_of_line line with
    | tooManyEquals n h => simp [h] at hline
    | expression h | assignment _ _ h | badTarget _ h =>
      rw [h, hvalue] at hline
      exact hline

/-- Where a strict calculator rejects a line for leftover operands, the lenient one uses the
value of the last of the expressions that are left. -/
theorem evaluate_lenient_of_leftover (hc : c.strict = true) {line : Text} {count : Nat}
    (hline : (c.evaluate line).1 = .error (.rejected (.leftoverOperands count))) :
    ∃ (before : List Expression) (e : Expression),
      postfixOfLine (expressionPart line) = .ok ((before ++ [e]).flatMap Expression.postorder) ∧
        before.length + 1 = count ∧ before ≠ [] ∧
        ValueUse c.lenient line (e.value c.environment) := by
  obtain ⟨hsigns, hvalue⟩ := infixValue_of_leftover hline
  cases lenience hc (expressionPart line) with
  | same h =>
    exact absurd ⟨count, h.trans hvalue⟩ (c.not_isLeftover_lenient (expressionPart line))
  | @last before e hbefore hconverted hstrict hlenient =>
    have hcount : before.length + 1 = count := by
      rw [hstrict] at hvalue
      simpa using hvalue
    exact ⟨before, e, hconverted, hcount, hbefore, valueUse hsigns hlenient⟩

end Calculator

namespace Session

open Calculator

/-! ## Lines one after another -/

/-- The session that gives the last of several values. -/
def lenient (s : Session) : Session :=
  { s with
    settings := { s.settings with strictResidue := false }
    calculator := s.calculator.lenient }

/-- What lines come to until the session is halted. -/
def outcomes (s : Session) : List Text → List (Except Fault Float)
  | [] => []
  | line :: rest =>
    if s.halted then []
    else (s.calculator.evaluate (lineText line)).1 :: (s.processLine line).2.outcomes rest

variable {s : Session}

theorem outcomes_cons (hs : s.halted = false) (line : Text) (rest : List Text) :
    s.outcomes (line :: rest) =
      (s.calculator.evaluate (lineText line)).1 :: (s.processLine line).2.outcomes rest := by
  rw [outcomes, hs]
  rfl

theorem outcomes_of_halted (hs : s.halted = true) (lines : List Text) : s.outcomes lines = [] := by
  cases lines with
  | nil => rfl
  | cons line rest => rw [outcomes, if_pos hs]

theorem processLine_lenient (hs : s.calculator.strict = true) {line : Text}
    (hline : ¬ IsLeftover (s.calculator.evaluate (lineText line)).1) :
    s.lenient.processLine line = ((s.processLine line).1, (s.processLine line).2.lenient) := by
  have hevaluate : s.lenient.calculator.evaluate (lineText line) =
      ((s.calculator.evaluate (lineText line)).1,
        (s.calculator.evaluate (lineText line)).2.lenient) := evaluate_lenient hs hline
  have hrejects : s.lenient.rejects line = s.rejects line := by
    rw [rejects, hevaluate, rejects]
  refine Prod.ext ?_ ?_
  · rw [processLine_output, processLine_output, hevaluate]
    rfl
  · rw [processLine_state, processLine_state, hevaluate, hrejects]
    rfl

/-- As long as the strict session rejects no line for leftover operands, the lenient one does
what the strict one does. -/
theorem processLines_lenient (hs : s.calculator.strict = true) {lines : List Text}
    (hlines : ∀ outcome ∈ s.outcomes lines, ¬ IsLeftover outcome) :
    s.lenient.processLines lines = ((s.processLines lines).1, (s.processLines lines).2.lenient) ∧
      s.lenient.outcomes lines = s.outcomes lines := by
  induction lines generalizing s with
  | nil => exact ⟨rfl, rfl⟩
  | cons line rest ih =>
    cases hhalted : s.halted with
    | true =>
      have hhalted' : s.lenient.halted = true := hhalted
      rw [processLines_of_halted hhalted, processLines_of_halted hhalted',
        outcomes_of_halted hhalted, outcomes_of_halted hhalted']
      exact ⟨rfl, rfl⟩
    | false =>
      have hhalted' : s.lenient.halted = false := hhalted
      rw [outcomes_cons hhalted, List.forall_mem_cons] at hlines
      have hline := processLine_lenient hs hlines.1
      have hevaluate := evaluate_lenient hs hlines.1
      obtain ⟨houtputs, houtcomes⟩ := ih ((s.strict_processLine line).trans hs) hlines.2
      rw [processLines_cons hhalted, processLines_cons hhalted', outcomes_cons hhalted,
        outcomes_cons hhalted', hline, houtputs, houtcomes]
      refine ⟨rfl, ?_⟩
      rw [show s.lenient.calculator = s.calculator.lenient from rfl, hevaluate]

/-- A strict and a lenient session with the same variables give the same outputs, for the same
reasons, and go through the same states, as long as the strict one rejects no line for leftover
operands.  Where it first does, the lenient one is in the same state and uses the value of the
last of the expressions whose postfix forms make up that of the line: the value is given or
assigned, unless the target of the line is bad. -/
theorem lenience_shows_on_leftovers (settings : Settings) (env : Environment) :
    let strict := start { settings with strictResidue := true } env
    let lenient := start { settings with strictResidue := false } env
    (∀ lines, (∀ outcome ∈ strict.outcomes lines, ¬ IsLeftover outcome) →
      (lenient.processLines lines).1 = (strict.processLines lines).1 ∧
        (lenient.run lines).1 = (strict.run lines).1 ∧
        lenient.outcomes lines = strict.outcomes lines ∧
        (lenient.processLines lines).2 = (strict.processLines lines).2.lenient) ∧
      (∀ s : Session, s.calculator.strict = true → ∀ line,
        ¬ IsLeftover (s.calculator.evaluate (lineText line)).1 →
          s.lenient.processLine line = ((s.processLine line).1, (s.processLine line).2.lenient)) ∧
      ∀ before line count, (∀ outcome ∈ strict.outcomes before, ¬ IsLeftover outcome) →
        let s := (strict.processLines before).2
        (s.calculator.evaluate (lineText line)).1 =
            .error (.rejected (.leftoverOperands count)) →
          (lenient.processLines before).2 = s.lenient ∧
            ∃ (trees : List Expression) (e : Expression),
              postfixOfLine (expressionPart (lineText line)) =
                  .ok ((trees ++ [e]).flatMap Expression.postorder) ∧
                trees.length + 1 = count ∧ trees ≠ [] ∧
                ValueUse s.lenient.calculator (lineText line)
                  (e.value s.calculator.environment) := by
  intro strict lenient
  have hstrict : strict.calculator.strict = true := rfl
  have hlenient : lenient = strict.lenient := rfl
  refine ⟨?_, ?_, ?_⟩
  · intro lines hlines
    obtain ⟨hprocess, houtcomes⟩ := processLines_lenient hstrict hlines
    rw [hlenient, run_eq_processLines, run_eq_processLines, hprocess]
    exact ⟨rfl, rfl, houtcomes, rfl⟩
  · intro s hs line hline
    exact processLine_lenient hs hline
  · intro before line count hbefore s hline
    have hs : s.calculator.strict = true := (strict.strict_processLines before).trans hstrict
    refine ⟨?_, evaluate_lenient_of_leftover hs hline⟩
    rw [hlenient, (processLines_lenient hstrict hbefore).1]

/-- The values of two expressions are left, and the last one is assigned. -/
theorem lenience_shows_on_leftovers_assigned :
    let strict := start { strictResidue := true } .empty
    let lenient := start { strictResidue := false } .empty
    let before := ["y = 3".toList, "y +".toList]
    let line := "x = 1 (y * 2)".toList
    let s := (strict.processLines before).2
    (lenient.processLines before).1 = (strict.processLines before).1 ∧
      (s.calculator.evaluate (lineText line)).1 =
        .error (.rejected (.leftoverOperands 2)) ∧
      (lenient.processLines before).2 = s.lenient ∧
      ∃ (trees : List Expression) (e : Expression),
        postfixOfLine (expressionPart (lineText line)) =
            .ok ((trees ++ [e]).flatMap Expression.postorder) ∧
          ValueUse s.lenient.calculator (lineText line) (e.value s.calculator.environment) := by
  intro strict lenient before line s
  have hbefore : ∀ outcome ∈ strict.outcomes before, ¬ IsLeftover outcome := by
    have houtcomes : strict.outcomes before =
        [.ok 3, .error (.rejected (.missingOperand ['+']))] := by decide +kernel
    rw [houtcomes]
    intro outcome houtcome
    rintro ⟨count, rfl⟩
    simp at houtcome
  have hline : (s.calculator.evaluate (lineText line)).1 =
      .error (.rejected (.leftoverOperands 2)) := by decide +kernel
  obtain ⟨hsame, -, hleftover⟩ := lenience_shows_on_leftovers {} .empty
  obtain ⟨hstate, trees, e, hconverted, -, -, huse⟩ := hleftover before line 2 hbefore hline
  exact ⟨(hsame before hbefore).1, hline, hstate, trees, e, hconverted, huse⟩

end Session

end LineCalc
