import Mathlib.Control.Monad.Basic
import LineCalc.Calculator
import LineCalc.Proofs.Evaluation
import LineCalc.Proofs.Infix

/-!
# Which lines have a value

`Outcome` lists what can become of the expression on a line: it has a part that is no
token, its parentheses are not balanced, an operator of its postfix form is starved, or
the postfix form spells expressions.  `outcome_infixValue` says that nothing else happens.

* A line that is an infix form of an expression has the value of this expression.
* A strict calculator accepts the lines whose postfix form is that of one expression.
  These are not the infix forms: nothing in the calculator asks that operands and
  operators take turns, and a line such as `1 2 +` has a value.
-/

namespace LineCalc

/-! ## The postfix form of a line -/

theorem postfixOfLine_of_lex {line : Text} {ts : List Token} (h : lex line = .ok ts) :
    postfixOfLine line = toPostfix ts := by
  rw [postfixOfLine, lexLine, h]
  rfl

theorem plain_of_toPostfix {ts ps : List Token} (hts : ∀ t ∈ ts, t.belongs = true)
    (h : toPostfix ts = .ok ps) : Plain ps := by
  intro t ht
  obtain ⟨hmem, hparen⟩ := mem_of_toPostfix h t ht
  exact ⟨hts t hmem, hparen⟩

/-- A postfix form has as many operands more than operators as the line. -/
theorem surplus_of_toPostfix {ts ps : List Token} {count : Nat} (h : toPostfix ts = .ok ps)
    (hps : Surplus ps count) : Surplus ts count := by
  have hoperand : ps.countP Token.isOperand = ts.countP Token.isOperand := by
    rw [List.countP_eq_length_filter, filter_isOperand_of_toPostfix h,
      List.countP_eq_length_filter]
  have hoperator : ps.countP Token.isOperator = ts.countP Token.isOperator := by
    rw [List.countP_eq_length_filter, (filter_isOperator_of_toPostfix h).length_eq,
      List.countP_eq_length_filter]
  rw [Surplus, hoperand, hoperator] at hps
  exact hps

namespace Calculator

/-! ## What becomes of an expression -/

/-- The outcomes of the evaluation of the expression on a line. -/
inductive Outcome (c : Calculator) (line : Text) : Except Fault Float → Prop where
  | badToken {s : Text}
      (htexts : (tokenTexts line).find? (fun text => !(classify text).isOk) = some s) :
      Outcome c line (.error (.rejected (.badToken s)))
  | unmatchedRight {ts : List Token} (hlex : lex line = .ok ts) (hdepth : depth? 0 ts = none) :
      Outcome c line (.error (.rejected .unmatchedRight))
  | unclosedLeft {ts : List Token} {d : Nat} (hlex : lex line = .ok ts)
      (hdepth : depth? 0 ts = some (d + 1)) :
      Outcome c line (.error (.rejected .unclosedLeft))
  | starved {ts ps : List Token} {symbol : Text} (hlex : lex line = .ok ts)
      (hdepth : depth? 0 ts = some 0) (hconverted : toPostfix ts = .ok ps)
      (hstarved : starved? ps = some symbol) :
      Outcome c line (.error (.rejected (.missingOperand symbol)))
  /-- The postfix form spells expressions, and their values are left. -/
  | spelled {ts ps : List Token} {trees : List Expression} (hlex : lex line = .ok ts)
      (hdepth : depth? 0 ts = some 0) (hconverted : toPostfix ts = .ok ps)
      (hstarved : starved? ps = none) (hspelling : spelling trees = ps)
      (hsurplus : Surplus ts trees.length) :
      Outcome c line (Evaluation.result c.strict (trees.map (Expression.value c.environment)))

theorem infixValue_of_postfixOfLine (c : Calculator) {line : Text} {ps : List Token}
    (h : postfixOfLine line = .ok ps) :
    c.infixValue line = evaluatePostfix c.environment c.strict ps := by
  rw [infixValue, h]
  rfl

theorem infixValue_of_postfixOfLine_error (c : Calculator) {line : Text} {fault : Fault}
    (h : postfixOfLine line = .error fault) : c.infixValue line = .error fault := by
  rw [infixValue, h]
  rfl

/-- The value of an expression is one of these outcomes. -/
theorem outcome_infixValue (c : Calculator) (line : Text) : Outcome c line (c.infixValue line) := by
  cases htexts : (tokenTexts line).find? (fun text => !(classify text).isOk) with
  | some s =>
    have hconverted : postfixOfLine line = .error (.rejected (.badToken s)) := by
      rw [postfixOfLine, lexLine, lex, classifyAll_eq_error htexts]
      rfl
    rw [c.infixValue_of_postfixOfLine_error hconverted]
    exact .badToken htexts
  | none =>
    obtain ⟨ts, hlex⟩ : ∃ ts, lex line = .ok ts := exists_classifyAll htexts
    have hline := postfixOfLine_of_lex hlex
    have hts := belongs_of_lex hlex
    cases hdepth : depth? 0 ts with
    | none =>
      rw [toPostfix_eq_unmatchedRight hts hdepth] at hline
      rw [c.infixValue_of_postfixOfLine_error hline]
      exact .unmatchedRight hlex hdepth
    | some d =>
      cases d with
      | succ d =>
        rw [toPostfix_eq_unclosedLeft hts hdepth] at hline
        rw [c.infixValue_of_postfixOfLine_error hline]
        exact .unclosedLeft hlex hdepth
      | zero =>
        obtain ⟨ps, hconverted⟩ := exists_toPostfix hts hdepth
        have hplain := plain_of_toPostfix hts hconverted
        rw [hconverted] at hline
        rw [c.infixValue_of_postfixOfLine hline]
        cases hstarved : starved? ps with
        | some symbol =>
          rw [evaluatePostfix_of_starved hplain hstarved]
          exact .starved hlex hdepth hconverted hstarved
        | none =>
          obtain ⟨trees, hgrow, hspelling, hsurplus⟩ := exists_spelling hplain hstarved
          rw [evaluatePostfix_of_growAll hgrow]
          exact .spelled hlex hdepth hconverted hstarved hspelling
            (surplus_of_toPostfix hconverted hsurplus)

theorem Outcome.ok_or_rejected {c : Calculator} {line : Text} {r : Except Fault Float}
    (h : Outcome c line r) : (∃ x, r = .ok x) ∨ ∃ reason, r = .error (.rejected reason) := by
  cases h with
  | @spelled ts ps trees =>
    match trees.map (Expression.value c.environment) with
    | [] => exact .inr ⟨_, rfl⟩
    | [x] => exact .inl ⟨x, rfl⟩
    | x :: y :: rest =>
      cases hstrict : c.strict with
      | true => exact .inr ⟨_, rfl⟩
      | false => exact .inl ⟨x, rfl⟩
  | _ => exact .inr ⟨_, rfl⟩

/-! ## Infix forms -/

/-- An infix form is converted to the postfix form of its expression, and every line with
these tokens has the value of the expression. -/
theorem infix_evaluates {ts : List Token} {e : Expression} (h : Infix .sum ts e) :
    toPostfix ts = .ok e.postorder ∧
      ∀ (c : Calculator) (line : Text), '=' ∉ line → lex line = .ok ts →
        c.evaluate line = (.ok (e.value c.environment), c) := by
  have hconverted := Infix.toPostfix_eq h
  refine ⟨hconverted, fun c line hline hlex => ?_⟩
  have hparts : postfixOfLine line = .ok e.postorder := by
    rw [postfixOfLine_of_lex hlex, hconverted]
  rw [c.evaluate_of_not_mem hline, c.infixValue_of_postfixOfLine hparts,
    evaluatePostfix_postorder]

theorem infix_evaluates_group :
    (⟨⟨[('b', 5)]⟩, true⟩ : Calculator).evaluate "7 - (b - 2) * 4".toList =
      (.ok (-5), ⟨⟨[('b', 5)]⟩, true⟩) := by
  have hb : Infix .sum [.var ['b']] (.var ['b']) := .ofProduct (.ofFactor (.var _))
  have htwo : Infix .product [.number ['2'] 2] (.number ['2'] 2) := .ofFactor (.number _ _)
  have hgroup := Infix.ofFactor (.group ['('] [')'] (.sum (rfl : Operation.sub.rank = 0) hb htwo))
  have hproduct := Infix.product (rfl : Operation.mul.rank = 1) hgroup (.number ['4'] 4)
  have hseven : Infix .sum [.number ['7'] 7] (.number ['7'] 7) :=
    .ofProduct (.ofFactor (.number _ _))
  have hsum := Infix.sum (rfl : Operation.sub.rank = 0) hseven hproduct
  have hlex : lex "7 - (b - 2) * 4".toList = .ok [.number ['7'] 7, .operator ['-'],
      .leftParen ['('], .var ['b'], .operator ['-'], .number ['2'] 2, .rightParen [')'],
      .operator ['*'], .number ['4'] 4] := by decide +kernel
  rw [(infix_evaluates hsum).2 _ _ (by decide) hlex]
  decide +kernel

/-! ## Lines that a strict calculator accepts -/

/-- The infix forms among the lists of tokens with the postfix form of one expression are
those in which operands and operators take turns. -/
theorem infix_iff {ts : List Token} (hts : ∀ t ∈ ts, t.belongs = true) (e : Expression) :
    Infix .sum ts e ↔ toPostfix ts = .ok e.postorder ∧ alternates true ts = true := by
  constructor
  · intro h
    exact ⟨Infix.toPostfix_eq h, ((exists_infix_iff hts).1 ⟨e, h⟩).2⟩
  · rintro ⟨hconverted, hturns⟩
    obtain ⟨f, hf⟩ := (exists_infix_iff hts).2 ⟨depth?_of_toPostfix hts hconverted, hturns⟩
    rw [Infix.toPostfix_eq hf] at hconverted
    rw [← postorder_injective (Except.ok.inj hconverted)]
    exact hf

theorem infixValue_strict_eq_ok {env : Environment} {line : Text} {x : Float} :
    (⟨env, true⟩ : Calculator).infixValue line = .ok x ↔
      ∃ (ts : List Token) (e : Expression), lex line = .ok ts ∧
        toPostfix ts = .ok e.postorder ∧ e.value env = x := by
  constructor
  · intro h
    have houtcome := (⟨env, true⟩ : Calculator).outcome_infixValue line
    generalize hr : (⟨env, true⟩ : Calculator).infixValue line = r at h houtcome
    cases houtcome with
    | @spelled ts ps trees hlex hdepth hconverted hstarved hspelling hsurplus =>
      obtain ⟨e, rfl, hvalue⟩ := List.map_eq_singleton_iff.1 (result_true_eq_ok.1 h)
      refine ⟨ts, e, hlex, ?_, hvalue⟩
      rw [hconverted, ← hspelling, spelling_cons]
      rfl
    | _ => cases h
  · rintro ⟨ts, e, hlex, hconverted, rfl⟩
    have hline : postfixOfLine line = .ok e.postorder := by
      rw [postfixOfLine_of_lex hlex, hconverted]
    rw [infixValue_of_postfixOfLine _ hline, evaluatePostfix_postorder]

/-- A strict calculator gives a line a value just if the line has tokens, the tokens have
the postfix form of one expression, and the value is that of this expression.  Any other
line is rejected.  The tokens are an infix form of the expression just if operands and
operators take turns. -/
theorem evaluate_strict_eq_ok {line : Text} (hline : '=' ∉ line) (env : Environment) :
    (∀ x, ((⟨env, true⟩ : Calculator).evaluate line).1 = .ok x ↔
        ∃ (ts : List Token) (e : Expression), lex line = .ok ts ∧
          toPostfix ts = .ok e.postorder ∧ e.value env = x) ∧
      (∀ (ts : List Token) (e : Expression), lex line = .ok ts →
        (Infix .sum ts e ↔ toPostfix ts = .ok e.postorder ∧ alternates true ts = true)) ∧
      ((∃ x, ((⟨env, true⟩ : Calculator).evaluate line).1 = .ok x) ∨
        ∃ reason, ((⟨env, true⟩ : Calculator).evaluate line).1 = .error (.rejected reason)) := by
  rw [evaluate_of_not_mem _ hline]
  refine ⟨fun x => infixValue_strict_eq_ok, fun ts e hlex => ?_, ?_⟩
  · exact infix_iff (belongs_of_lex hlex) e
  · exact (outcome_infixValue _ line).ok_or_rejected

theorem evaluate_strict_eq_ok_sum :
    '=' ∉ "2 + x".toList ∧ ((⟨.empty, true⟩ : Calculator).evaluate "2 + x".toList).1 = .ok 2 := by
  have hline : '=' ∉ "2 + x".toList := by decide
  refine ⟨hline, ((evaluate_strict_eq_ok hline .empty).1 2).2 ?_⟩
  refine ⟨[.number ['2'] 2, .operator ['+'], .var ['x']],
    .operation .add (.number ['2'] 2) (.var ['x']), ?_, ?_, ?_⟩
  all_goals decide +kernel

/-- An operator behind both its operands goes unnoticed: `1 2 +` is no infix form, and yet
it has a value. -/
theorem evaluate_misplaced_operator :
    '=' ∉ "1 2 +".toList ∧
      ((⟨.empty, true⟩ : Calculator).evaluate "1 2 +".toList).1 = .ok 3 ∧
      ¬ ∃ ts e, lex "1 2 +".toList = .ok ts ∧ Infix .sum ts e := by
  refine ⟨by decide, by decide +kernel, ?_⟩
  rintro ⟨ts, e, hlex, hinfix⟩
  have htokens : lex "1 2 +".toList =
      .ok [.number ['1'] 1, .number ['2'] 2, .operator ['+']] := by decide +kernel
  rw [htokens] at hlex
  obtain rfl := Except.ok.inj hlex
  -- The second number stands where an operator is due.
  have hturns := Infix.alternates_append hinfix []
  cases hturns

end Calculator

end LineCalc
