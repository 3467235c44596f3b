import Mathlib.Control.Monad.Basic
import LineCalc.Proofs.Assignment
import LineCalc.Proofs.PostfixText
import LineCalc.Proofs.Verdicts

/-!
# What a line reads

A line reads the variables that are tokens of its expression, and nothing else of an
environment: neither which variables have been assigned nor in which order.

* Two environments in which these variables have the same values give a line the same
  outcome (`evaluate_fst_congr`).
* Whether a line has a value, and why it has none, can be told without any values
  (`verdict_evaluate`): a run on other values has the same height at every point.
* Sessions that are alike (`Session.Alike`) cannot be told apart by their outputs, and they
  stay alike.
-/

namespace LineCalc

/-- An outcome without its value. -/
def verdict (outcome : Except Fault Float) : Except Fault Unit :=
  outcome.map fun _ => ()

/-- Two outcomes without their values agree if they have one fault, or if both have a
value. -/
theorem cases_of_map_eq {ε α β : Type} {f : α → β} {r r' : Except ε α} (h : r.map f = r'.map f) :
    (∃ fault, r = .error fault ∧ r' = .error fault) ∨
      ∃ x x', r = .ok x ∧ r' = .ok x' ∧ f x = f x' := by
  cases r with
  | error fault =>
    cases r' with
    | error fault' =>
      cases h
      exact .inl ⟨fault, rfl, rfl⟩
    | ok x' => cases h
  | ok x =>
    cases r' with
    | error fault' => cases h
    | ok x' => exact .inr ⟨x, x', rfl, rfl, Except.ok.inj h⟩

/-! ## The heights of two runs -/

namespace Evaluation

theorem applyOperator_height {stack stack' : List Float} (h : stack.length = stack'.length)
    (symbol : Text) :
    (applyOperator symbol stack).map List.length = (applyOperator symbol stack').map List.length := by
  match stack, stack' with
  | [], [] => rfl
  | [_], [_] => rfl
  | _ :: _ :: rest, _ :: _ :: rest' =>
    have hrest : rest.length = rest'.length := by simpa using h
    simp only [applyOperator]
    cases Operation.ofSymbol? symbol with
    | none => rfl
    | some op => simp [Except.map, hrest]

theorem step_height {stack stack' : List Float} (h : stack.length = stack'.length)
    (env env' : Environment) (t : Token) :
    (step env stack t).map List.length = (step env' stack' t).map List.length := by
  cases t with
  | operator symbol => exact applyOperator_height h symbol
  | number text value => simp [step, Except.map, h]
  | var name => simp [step, Except.map, h]
  | _ => rfl

/-- Runs from stacks of one height go equally far, whatever the values are. -/
theorem run_height {stack stack' : List Float} (h : stack.length = stack'.length)
    (env env' : Environment) (ps : List Token) :
    (run env stack ps).map List.length = (run env' stack' ps).map List.length := by
  induction ps generalizing stack stack' with
  | nil => exact congrArg Except.ok h
  | cons t ps ih =>
    rw [run, run, List.foldlM_cons, List.foldlM_cons]
    rcases cases_of_map_eq (step_height h env env' t) with
      ⟨fault, hs, hs'⟩ | ⟨next, next', hs, hs', hnext⟩
    · rw [hs, hs']
      rfl
    · rw [hs, hs']
      exact ih hnext

theorem verdict_result {stack stack' : List Float} (h : stack.length = stack'.length)
    (strict : Bool) : verdict (result strict stack) = verdict (result strict stack') := by
  match stack, stack' with
  | [], [] => rfl
  | [_], [_] => rfl
  | _ :: _ :: rest, _ :: _ :: rest' =>
    have hrest : rest.length = rest'.length := by simpa using h
    cases strict with
    | true => simp [result, verdict, Except.map, hrest]
    | false => rfl

end Evaluation

theorem verdict_evaluatePostfix (env env' : Environment) (strict : Bool) (ps : List Token) :
    verdict (evaluatePostfix env strict ps) = verdict (evaluatePostfix env' strict ps) := by
  have hheight := Evaluation.run_height (rfl : ([] : List Float).length = 0) env env' ps
  rw [evaluatePostfix, evaluatePostfix]
  rcases cases_of_map_eq hheight with ⟨fault, hrun, hrun'⟩ | ⟨stack, stack', hrun, hrun', hstack⟩
  · rw [hrun, hrun']
  · rw [hrun, hrun']
    exact Evaluation.verdict_result hstack strict

namespace Calculator

/-! ## The outcome of a line -/

theorem verdict_infixValue {c c' : Calculator} (hstrict : c.strict = c'.strict) (line : Text) :
    verdict (c.infixValue line) = verdict (c'.infixValue line) := by
  cases hline : postfixOfLine line with
  | error fault =>
    rw [c.infixValue_of_postfixOfLine_error hline, c'.infixValue_of_postfixOfLine_error hline]
  | ok ps =>
    rw [c.infixValue_of_postfixOfLine hline, c'.infixValue_of_postfixOfLine hline, hstrict]
    exact verdict_evaluatePostfix _ _ _ _

/-- The ways in which a line can be evaluated.  They do not depend on the calculator. -/
inductive Form (line : Text) : Prop where
  /-- The line is an expression. -/
  | expression (h : ∀ c : Calculator, c.evaluate line = (c.infixValue (expressionPart line), c))
  /-- The value of the expression is assigned to a letter. -/
  | assignment (letter : Char) (hletter : isLetter letter = true)
      (h : ∀ c : Calculator, c.evaluate line =
        match c.infixValue (expressionPart line) with
        | .ok x => (.ok x, ⟨c.environment.set letter x, c.strict⟩)
        | .error fault => (.error fault, c))
  /-- The line is rejected for its target, if not for its expression. -/
  | badTarget (name : Text)
      (h : ∀ c : Calculator, c.evaluate line =
        match c.infixValue (expressionPart line) with
        | .ok _ => (.error (.rejected (.badTarget name)), c)
        | .error fault => (.error fault, c))
  /-- The line is rejected for its assignment signs. -/
  | tooManyEquals (count : Nat)
      (h : ∀ c : Calculator, c.evaluate line = (.error (.rejected (.tooManyEquals count)), c))

theorem form_of_line (line : Text) : Form line := by
  rcases assignmentSign_cases line with hnone | ⟨left, right, rfl, hleft, hright⟩ | htwo
  · refine .expression fun c => ?_
    rw [expressionPart_of_not_mem hnone, c.evaluate_of_not_mem hnone]
  · by_cases hname : isVariable (targetName left) = true
    · obtain ⟨letter, hname, hletter⟩ := isVariable_iff.1 hname
      refine .assignment letter hletter fun c => ?_
      rw [expressionPart_assignment hleft, c.evaluate_assignment hleft hright]
      cases c.infixValue right with
      | error fault => rfl
      | ok x => exact c.assign_letter hname hletter x
    · rw [Bool.not_eq_true] at hname
      refine .badTarget (targetName left) fun c => ?_
      rw [expressionPart_assignment hleft, c.evaluate_assignment hleft hright]
      cases c.infixValue right with
      | error fault => rfl
      | ok x => exact c.assign_eq_error hname x
  · exact .tooManyEquals _ fun c => c.evaluate_of_two_le htwo

/-- Whether a line has a value, and why it has none, does not depend on the environment. -/
theorem verdict_evaluate {c c' : Calculator} (hstrict : c.strict = c'.strict) (line : Text) :
    verdict (c.evaluate line).1 = verdict (c'.evaluate line).1 := by
  have hvalue := verdict_infixValue hstrict (expressionPart line)
  cases form_of_line line with
  | expression h =>
    rw [h, h]
    exact hvalue
  | assignment letter hletter h =>
    rw [h, h]
    rcases cases_of_map_eq hvalue with ⟨fault, hx, hx'⟩ | ⟨x, x', hx, hx', -⟩
    · rw [hx, hx']
    · rw [hx, hx']
      rfl
  | badTarget name h =>
    rw [h, h]
    rcases cases_of_map_eq hvalue with ⟨fault, hx, hx'⟩ | ⟨x, x', hx, hx', -⟩
    · rw [hx, hx']
    · rw [hx, hx']
  | tooManyEquals count h => rw [h, h]

/-! ## The letters of a line -/

theorem isVariable_of_classify {name : Text} (h : classify name = .ok (.var name)) :
    isVariable name = true := by
  unfold classify at h
  split at h
  · next hname => exact hname
  · repeat' split at h
    all_goals cases h

/-- The variables of a postfix form are letters that are tokens of the line. -/
theorem letter_of_mem_postfixOfLine {line : Text} {ps : List Token} {name : Text}
    (hline : postfixOfLine line = .ok ps) (hname : Token.var name ∈ ps) :
    ∃ letter, name = [letter] ∧ isLetter letter = true ∧ [letter] ∈ tokenTexts line := by
  obtain ⟨ts, hlex, hconverted⟩ := postfixOfLine_eq_ok hline
  obtain ⟨htexts, hclassify⟩ := map_text_of_classifyAll hlex
  obtain ⟨hmem, -⟩ := mem_of_toPostfix hconverted _ hname
  obtain ⟨letter, rfl, hletter⟩ := isVariable_iff.1 (isVariable_of_classify (hclassify _ hmem))
  refine ⟨letter, rfl, hletter, ?_⟩
  rw [← htexts]
  exact List.mem_map_of_mem hmem

/-- Two environments agree on the letters that are tokens of an expression. -/
def AgreeOn (expression : Text) (env env' : Environment) : Prop :=
  ∀ letter, isLetter letter = true → [letter] ∈ tokenTexts expression →
    env.get [letter] = env'.get [letter]

theorem infixValue_congr {c c' : Calculator} (hstrict : c.strict = c'.strict) {expression : Text}
    (h : AgreeOn expression c.environment c'.environment) :
    c.infixValue expression = c'.infixValue expression := by
  cases hline : postfixOfLine expression with
  | error fault =>
    rw [infixValue_of_postfixOfLine_error _ hline, infixValue_of_postfixOfLine_error _ hline]
  | ok ps =>
    have hvars : ∀ name, Token.var name ∈ ps →
        c.environment.get name = c'.environment.get name := by
      intro name hname
      obtain ⟨letter, rfl, hletter, hmem⟩ := letter_of_mem_postfixOfLine hline hname
      exact h letter hletter hmem
    rw [infixValue_of_postfixOfLine _ hline, infixValue_of_postfixOfLine _ hline, evaluatePostfix,
      evaluatePostfix, Evaluation.run_congr hvars, hstrict]

/-- The outcome of a line depends on the letters that are tokens of its expression. -/
theorem evaluate_fst_congr {c c' : Calculator} (hstrict : c.strict = c'.strict) {line : Text}
    (h : AgreeOn (expressionPart line) c.environment c'.environment) :
    (c.evaluate line).1 = (c'.evaluate line).1 := by
  have hvalue := infixValue_congr hstrict h
  cases form_of_line line with
  | expression hline => rw [hline, hline, hvalue]
  | assignment letter hletter hline =>
    rw [hline, hline, hvalue]
    cases c'.infixValue (expressionPart line) <;> rfl
  | badTarget name hline =>
    rw [hline, hline, hvalue]
    cases c'.infixValue (expressionPart line) <;> rfl
  | tooManyEquals count hline => rw [hline, hline]

/-- Two environments give every letter the same value. -/
def Agree (env env' : Environment) : Prop :=
  ∀ letter, isLetter letter = true → env.get [letter] = env'.get [letter]

theorem Agree.agreeOn {env env' : Environment} (h : Agree env env') (expression : Text) :
    AgreeOn expression env env' :=
  fun letter hletter _ => h letter hletter

theorem Agree.set {env env' : Environment} (h : Agree env env') (target : Char) (x : Float) :
    Agree (env.set target x) (env'.set target x) := by
  intro letter hletter
  rw [Environment.get_set, Environment.get_set, h letter hletter]

/-- Environments that agree still do after a line. -/
theorem Agree.evaluate {c c' : Calculator} (h : Agree c.environment c'.environment)
    (hstrict : c.strict = c'.strict) (line : Text) :
    Agree (c.evaluate line).2.environment (c'.evaluate line).2.environment := by
  have hvalue := infixValue_congr hstrict (h.agreeOn (expressionPart line))
  cases form_of_line line with
  | expression hline =>
    rw [hline, hline]
    exact h
  | assignment letter hletter hline =>
    rw [hline, hline, hvalue]
    cases c'.infixValue (expressionPart line) with
    | error fault => exact h
    | ok x => exact h.set letter x
  | badTarget name hline =>
    rw [hline, hline, hvalue]
    cases c'.infixValue (expressionPart line) <;> exact h
  | tooManyEquals count hline =>
    rw [hline, hline]
    exact h

end Calculator

namespace Session

/-! ## Sessions that are alike -/

open Calculator

/-- Two sessions differ at most in their counters and in how their environments hold the
values of the letters. -/
structure Alike (s s' : Session) : Prop where
  settings : s.settings = s'.settings
  strict : s.calculator.strict = s'.calculator.strict
  halted : s.halted = s'.halted
  letters : Agree s.calculator.environment s'.calculator.environment

variable {s s' : Session}

theorem Alike.evaluate_fst (h : s.Alike s') (line : Text) :
    (s.calculator.evaluate line).1 = (s'.calculator.evaluate line).1 := by
  exact evaluate_fst_congr h.strict (h.letters.agreeOn (expressionPart line))

theorem Alike.processLine_fst (h : s.Alike s') (line : Text) :
    (s.processLine line).1 = (s'.processLine line).1 := by
  rw [processLine_output, processLine_output, h.evaluate_fst, h.settings]

theorem Alike.processLine (h : s.Alike s') (line : Text) :
    (s.processLine line).2.Alike (s'.processLine line).2 := by
  have hrejects : s.rejects line = s'.rejects line := by
    rw [rejects, rejects, h.evaluate_fst]
  rw [processLine_state, processLine_state]
  refine ⟨h.settings, ?_, ?_, ?_⟩
  · show (s.calculator.evaluate (lineText line)).2.strict = _
    rw [evaluate_strict, evaluate_strict, h.strict]
  · show (s.halted || (s.rejects line && s.settings.haltOnError)) = _
    rw [h.halted, hrejects, h.settings]
  · exact h.letters.evaluate h.strict (lineText line)

/-- Sessions that are alike have the same outputs and stay alike. -/
theorem Alike.processLines (h : s.Alike s') (lines : List Text) :
    (s.processLines lines).1 = (s'.processLines lines).1 ∧
      (s.processLines lines).2.Alike (s'.processLines lines).2 := by
  induction lines generalizing s s' with
  | nil => exact ⟨rfl, h⟩
  | cons line rest ih =>
    cases hs : s.halted with
    | true =>
      have hs' : s'.halted = true := by rw [← h.halted, hs]
      rw [processLines_of_halted hs, processLines_of_halted hs']
      exact ⟨rfl, h⟩
    | false =>
      have hs' : s'.halted = false := by rw [← h.halted, hs]
      obtain ⟨houtputs, halike⟩ := ih (h.processLine line)
      rw [processLines_cons hs, processLines_cons hs', h.processLine_fst, houtputs]
      exact ⟨rfl, halike⟩

/-- An environment is observed through the values of the letters that a line names.  Where
these agree, a line has one outcome, and whether and why it is rejected does not depend on
the environment at all.  Hence sessions with equal settings whose environments agree on the
letters have the same outputs for any lines, and their environments still agree then. -/
theorem observed_through_get :
    (∀ (env env' : Environment) (strict : Bool) (line : Text),
      (∀ letter, isLetter letter = true → [letter] ∈ tokenTexts (expressionPart line) →
        env.get [letter] = env'.get [letter]) →
        ((⟨env, strict⟩ : Calculator).evaluate line).1 =
          ((⟨env', strict⟩ : Calculator).evaluate line).1) ∧
      (∀ (env env' : Environment) (strict : Bool) (line : Text),
        verdict ((⟨env, strict⟩ : Calculator).evaluate line).1 =
          verdict ((⟨env', strict⟩ : Calculator).evaluate line).1) ∧
      (∀ (settings : Settings) (env env' : Environment),
        (∀ letter, isLetter letter = true → env.get [letter] = env'.get [letter]) →
          (start settings env).Alike (start settings env')) ∧
      ∀ s s' : Session, s.Alike s' → ∀ lines : List Text,
        (s.processLines lines).1 = (s'.processLines lines).1 ∧
          (s.run lines).1 = (s'.run lines).1 ∧
          (s.processLines lines).2.Alike (s'.processLines lines).2 := by
  refine ⟨?_, ?_, ?_, ?_⟩
  · intro env env' strict line h
    have hstrict : (⟨env, strict⟩ : Calculator).strict = (⟨env', strict⟩ : Calculator).strict := rfl
    exact evaluate_fst_congr hstrict h
  · intro env env' strict line
    have hstrict : (⟨env, strict⟩ : Calculator).strict = (⟨env', strict⟩ : Calculator).strict := rfl
    exact verdict_evaluate hstrict line
  · intro settings env env' h
    exact ⟨rfl, rfl, rfl, h⟩
  · intro s s' h lines
    obtain ⟨houtputs, halike⟩ := h.processLines lines
    refine ⟨houtputs, ?_, halike⟩
    rw [run_eq_processLines, run_eq_processLines, houtputs]

/-- A letter that has not been assigned and one that is zero cannot be told apart. -/
theorem observed_through_get_unassigned :
    let zero : Environment := Environment.empty.set 'x' 0
    let lines := ["y = 1 - x".toList, "y / x".toList, "x x".toList]
    ((⟨.empty, true⟩ : Calculator).evaluate "2 * x".toList).1 =
        ((⟨zero, true⟩ : Calculator).evaluate "2 * x".toList).1 ∧
      ((start {} .empty).processLines lines).1 = ((start {} zero).processLines lines).1 := by
  intro zero lines
  have hagree : Agree .empty zero := by
    intro letter hletter
    rw [Environment.get_set]
    split <;> rfl
  refine ⟨observed_through_get.1 .empty zero true _ fun letter hletter _ => hagree letter hletter, ?_⟩
  have halike := observed_through_get.2.2.1 {} .empty zero hagree
  exact (observed_through_get.2.2.2 _ _ halike lines).1

end Session

end LineCalc
