import Mathlib.Data.List.Infix
import LineCalc.Proofs.Legality

/-!
# Why a line is rejected

`violation? strict line rule` reports on the breach of a rule by a line.  It reads the line
only: it cuts it at the assignment sign, counts texts by their kind and looks for the first
starved operator of the postfix form.  No value of a variable is read.

`ruling` is the report on the first rule that the line breaks, in the order of `ruleOrder`.
The calculator follows it: a line with a report is rejected with this report, and any other
line has a value.

The evaluation meets the rules in another way, each in the component that it belongs to.
`Calculator.Outcome` lists what it can meet, and `Outcome.ruled` compares case by case.
-/

namespace LineCalc

/-! ## The parts of a line -/

/-- What is evaluated: the part behind the first assignment sign, or the whole line. -/
def expressionPart (line : Text) : Text :=
  if '=' ∈ line then (line.dropWhile (· != '=')).tail else line

/-- What is assigned to, without the blanks around it. -/
def targetPart (line : Text) : Text :=
  Text.trim Text.isBlank (line.takeWhile (· != '='))

theorem expressionPart_of_not_mem {line : Text} (h : '=' ∉ line) : expressionPart line = line :=
  if_neg h

private theorem ne_sign {left : Text} (hleft : '=' ∉ left) : ∀ c ∈ left, (c != '=') = true := by
  intro c hc
  rw [bne_iff_ne]
  rintro rfl
  exact hleft hc

theorem expressionPart_assignment {left : Text} (hleft : '=' ∉ left) (right : Text) :
    expressionPart (left ++ '=' :: right) = right := by
  have hmem : '=' ∈ left ++ '=' :: right := by simp
  rw [expressionPart, if_pos hmem, List.dropWhile_append_of_pos (ne_sign hleft)]
  rfl

theorem targetPart_assignment {left : Text} (hleft : '=' ∉ left) (right : Text) :
    targetPart (left ++ '=' :: right) = Calculator.targetName left := by
  rw [targetPart, List.takeWhile_append_of_pos (ne_sign hleft)]
  simp [Calculator.targetName]

/-! ## The rules -/

/-- A right parenthesis has no left one: some first texts hold more right parentheses than
left ones. -/
def closesTooMuch (texts : List Text) : Bool :=
  texts.inits.any fun before => before.countP isLeftParen < before.countP isRightParen

/-- The report on the breach of a rule by a line. -/
def violation? (strict : Bool) (line : Text) (rule : Rule) : Option Report :=
  let signs := line.count '='
  let texts := tokenTexts (expressionPart line)
  let operands := texts.countP isOperand
  let operators := texts.countP isOperator
  match rule with
  | .tooManyEquals =>
    if 2 ≤ signs then some (.ofRule rule (some s!"Found {signs} assignment signs") none)
    else none
  | .badToken =>
    (texts.find? fun text => !(classify text).isOk).map fun text =>
      .ofRule rule none (some text)
  | .badParenthesis =>
    if closesTooMuch texts then
      some (.ofRule rule (some "Right parenthesis without a matching left parenthesis") none)
    else if texts.countP isLeftParen ≠ texts.countP isRightParen then
      some (.ofRule rule (some "Unclosed left parenthesis") none)
    else none
  | .missingOperand =>
    ((postfixOfLine (expressionPart line)).toOption.bind starved?).map fun symbol =>
      .ofRule rule none (some symbol)
  | .emptyExpression =>
    if operands = operators then some (.ofRule rule none none) else none
  | .leftoverOperands =>
    if strict && operators + 2 ≤ operands then
      some (.ofRule rule
        (some s!"Expected one value after evaluation, found {operands - operators}") none)
    else none
  | .badTarget =>
    if '=' ∈ line ∧ isVariable (targetPart line) = false then
      some (.ofRule rule none (some (targetPart line)))
    else none

/-- The rules for the expression of a line, the one that is enforced first before the
others. -/
def expressionRules : List Rule :=
  [.badToken, .badParenthesis, .missingOperand, .emptyExpression, .leftoverOperands]

/-- The rules in the order in which they are enforced. -/
def ruleOrder : List Rule :=
  .tooManyEquals :: expressionRules ++ [.badTarget]

/-- The report on the first rule that a line breaks. -/
def ruling (strict : Bool) (line : Text) : Option Report :=
  ruleOrder.findSome? (violation? strict line)

/-- The outcome is the one that was ruled: a rejection with the report, or a value. -/
def Ruled (report? : Option Report) (r : Except Fault Float) : Prop :=
  match report? with
  | some report => ∃ reason, r = .error (.rejected reason) ∧ reason.report = report
  | none => ∃ x, r = .ok x

/-! ## What a line of tokens breaks -/

variable {line : Text} {ts ps : List Token} {strict : Bool}

theorem countP_tokenTexts {p : Token → Bool} {q : Text → Bool}
    (hpq : ∀ s t, classify s = .ok t → p t = q s) (hlex : lex line = .ok ts) :
    (tokenTexts line).countP q = ts.countP p := by
  obtain ⟨hmap, hmem⟩ := map_text_of_classifyAll hlex
  rw [← hmap, countP_map_text hpq hmem]

theorem countP_isLeftParen {ts : List Token} (hts : ∀ t ∈ ts, classify t.text = .ok t) :
    (ts.map Token.text).countP isLeftParen = ts.countP Token.isLeftParen :=
  countP_map_text (fun _ _ h => (kind_of_classify h).2.2.1) hts

theorem countP_isRightParen {ts : List Token} (hts : ∀ t ∈ ts, classify t.text = .ok t) :
    (ts.map Token.text).countP isRightParen = ts.countP Token.isRightParen :=
  countP_map_text (fun _ _ h => (kind_of_classify h).2.2.2) hts

theorem closesTooMuch_iff (hlex : lex line = .ok ts) :
    closesTooMuch (tokenTexts line) = true ↔ depth? 0 ts = none := by
  obtain ⟨hmap, hmem⟩ := map_text_of_classifyAll hlex
  rw [closesTooMuch, List.any_eq_true, ← closesEarly_iff, ← hmap]
  have hcount {before : List Token} (hbefore : before <+: ts) :
      (before.map Token.text).countP isLeftParen < (before.map Token.text).countP isRightParen ↔
        before.countP Token.isLeftParen < before.countP Token.isRightParen := by
    have hclassify : ∀ t ∈ before, classify t.text = .ok t := fun t ht =>
      hmem t (hbefore.subset ht)
    rw [countP_isLeftParen hclassify, countP_isRightParen hclassify]
  constructor
  · rintro ⟨texts, htexts, hlt⟩
    rw [List.mem_inits] at htexts
    obtain ⟨before, hbefore, rfl⟩ := List.prefix_map_iff.1 htexts
    exact ⟨before, hbefore, (hcount hbefore).1 (of_decide_eq_true hlt)⟩
  · rintro ⟨before, hbefore, hlt⟩
    refine ⟨before.map Token.text, ?_, decide_eq_true ((hcount hbefore).2 hlt)⟩
    rw [List.mem_inits]
    exact hbefore.map _

theorem violation?_badToken_of_lex (hlex : lex (expressionPart line) = .ok ts) :
    violation? strict line .badToken = none := by
  simp only [violation?]
  rw [find?_of_classifyAll hlex]
  rfl

/-- The surplus of operands decides on the last two rules for an expression. -/
theorem violation?_of_surplus (hlex : lex (expressionPart line) = .ok ts) {count : Nat}
    (hsurplus : Surplus ts count) :
    violation? strict line .emptyExpression =
        (if count = 0 then some (Rejection.report .emptyExpression) else none) ∧
      violation? strict line .leftoverOperands =
        (if strict && 2 ≤ count then some (Rejection.report (.leftoverOperands count))
        else none) := by
  have hoperand := countP_tokenTexts (fun _ _ h => (kind_of_classify h).1) hlex
  have hoperator := countP_tokenTexts (fun _ _ h => (kind_of_classify h).2.1) hlex
  rw [Surplus] at hsurplus
  have hempty : ts.countP Token.isOperand = ts.countP Token.isOperator ↔ count = 0 := by omega
  have hmany : ts.countP Token.isOperator + 2 ≤ ts.countP Token.isOperand ↔ 2 ≤ count := by
    omega
  have hcount : ts.countP Token.isOperand - ts.countP Token.isOperator = count := by omega
  simp only [violation?, hoperand, hoperator, hempty, hmany, hcount]
  exact ⟨rfl, rfl⟩

theorem violation?_badParenthesis_of_lex (hlex : lex (expressionPart line) = .ok ts) :
    violation? strict line .badParenthesis =
      match depth? 0 ts with
      | none => some (Rejection.report .unmatchedRight)
      | some 0 => none
      | some (_ + 1) => some (Rejection.report .unclosedLeft) := by
  have hcloses := closesTooMuch_iff hlex
  have hleft := countP_tokenTexts (fun _ _ h => (kind_of_classify h).2.2.1) hlex
  have hright := countP_tokenTexts (fun _ _ h => (kind_of_classify h).2.2.2) hlex
  cases hdepth : depth? 0 ts with
  | none =>
    simp only [violation?, hcloses.2 hdepth]
    rfl
  | some d =>
    have hfits : closesTooMuch (tokenTexts (expressionPart line)) = false := by
      rw [Bool.eq_false_iff, ne_eq, hcloses, hdepth]
      simp
    have hcount := depth?_eq_some hdepth
    simp only [violation?, hfits, hleft, hright]
    cases d with
    | zero =>
      have hequal : ts.countP Token.isLeftParen = ts.countP Token.isRightParen := by omega
      simp [hequal]
    | succ d =>
      have hmore : ts.countP Token.isLeftParen ≠ ts.countP Token.isRightParen := by omega
      rw [if_neg (by simp), if_pos hmore]
      rfl

theorem violation?_missingOperand_of_toPostfix (hlex : lex (expressionPart line) = .ok ts)
    (hconverted : toPostfix ts = .ok ps) :
    violation? strict line .missingOperand =
      (starved? ps).map fun symbol => Rejection.report (.missingOperand symbol) := by
  simp only [violation?]
  rw [postfixOfLine_of_lex hlex, hconverted]
  rfl

/-! ## The ruling on a line -/

open Calculator

/-- What becomes of the expression on a line is what the rules for expressions say. -/
theorem Calculator.Outcome.ruled {c : Calculator} {r : Except Fault Float}
    (h : Outcome c (expressionPart line) r) :
    Ruled (expressionRules.findSome? (violation? c.strict line)) r := by
  rw [expressionRules]
  cases h with
  | @badToken s htexts =>
    have hviolation : violation? c.strict line .badToken =
        some (Rejection.report (.badToken s)) := by
      simp only [violation?]
      rw [htexts]
      rfl
    rw [List.findSome?_cons, hviolation]
    exact ⟨_, rfl, rfl⟩
  | unmatchedRight hlex hdepth =>
    rw [List.findSome?_cons, violation?_badToken_of_lex hlex, List.findSome?_cons,
      violation?_badParenthesis_of_lex hlex, hdepth]
    exact ⟨_, rfl, rfl⟩
  | unclosedLeft hlex hdepth =>
    rw [List.findSome?_cons, violation?_badToken_of_lex hlex, List.findSome?_cons,
      violation?_badParenthesis_of_lex hlex, hdepth]
    exact ⟨_, rfl, rfl⟩
  | starved hlex hdepth hconverted hstarved =>
    rw [List.findSome?_cons, violation?_badToken_of_lex hlex, List.findSome?_cons,
      violation?_badParenthesis_of_lex hlex, hdepth, List.findSome?_cons,
      violation?_missingOperand_of_toPostfix hlex hconverted, hstarved]
    exact ⟨_, rfl, rfl⟩
  | @spelled ts ps trees hlex hdepth hconverted hstarved hspelling hsurplus =>
    obtain ⟨hempty, hleftover⟩ := violation?_of_surplus hlex hsurplus
    rw [List.findSome?_cons, violation?_badToken_of_lex hlex, List.findSome?_cons,
      violation?_badParenthesis_of_lex hlex, hdepth, List.findSome?_cons,
      violation?_missingOperand_of_toPostfix hlex hconverted, hstarved, List.findSome?_cons,
      hempty, List.findSome?_cons, hleftover]
    match trees with
    | [] => exact ⟨_, rfl, rfl⟩
    | [e] =>
      cases c.strict
      all_goals exact ⟨_, rfl⟩
    | e :: f :: rest =>
      have hmany : 2 ≤ (e :: f :: rest).length := by simp
      cases c.strict with
      | true =>
        simp only [hmany]
        refine ⟨.leftoverOperands (rest.length + 2), ?_, rfl⟩
        simp [Evaluation.result]
      | false => exact ⟨_, rfl⟩

theorem Ruled.eq_none {report? : Option Report} {x : Float} (h : Ruled report? (.ok x)) :
    report? = none := by
  cases report? with
  | none => rfl
  | some report =>
    obtain ⟨reason, hreason, -⟩ := h
    cases hreason

/-- A line that has been rejected is not looked at any further. -/
theorem Ruled.or {report? : Option Report} {fault : Fault} (h : Ruled report? (.error fault))
    (later? : Option Report) : Ruled (report?.or later?) (.error fault) := by
  cases report? with
  | none =>
    obtain ⟨x, hx⟩ := h
    cases hx
  | some report => exact h

/-- The calculator rejects a line with the report on the first rule that it breaks, and
gives a value to a line that breaks none. -/
theorem evaluate_ruled (c : Calculator) (line : Text) :
    Ruled (ruling c.strict line) (c.evaluate line).1 := by
  rw [ruling, ruleOrder, List.findSome?_append, List.findSome?_cons]
  rcases assignmentSign_cases line with hnone | ⟨left, right, rfl, hleft, hright⟩ | htwo
  · have hequals : violation? c.strict line .tooManyEquals = none := by
      simp [violation?, List.count_eq_zero_of_not_mem hnone]
    have htarget : [Rule.badTarget].findSome? (violation? c.strict line) = none := by
      simp [violation?, hnone]
    have houtcome : Outcome c (expressionPart line) (c.infixValue line) := by
      rw [expressionPart_of_not_mem hnone]
      exact c.outcome_infixValue line
    rw [hequals, htarget, Option.or_none, c.evaluate_of_not_mem hnone]
    exact houtcome.ruled
  · have hequals : violation? c.strict (left ++ '=' :: right) .tooManyEquals = none := by
      simp [violation?, List.count_eq_zero_of_not_mem hleft, List.count_eq_zero_of_not_mem hright]
    have houtcome : Outcome c (expressionPart (left ++ '=' :: right)) (c.infixValue right) := by
      rw [expressionPart_assignment hleft]
      exact c.outcome_infixValue right
    have hruled := houtcome.ruled
    rw [hequals, c.evaluate_assignment hleft hright]
    cases hvalue : c.infixValue right with
    | error fault =>
      rw [hvalue] at hruled
      exact hruled.or _
    | ok x =>
      rw [hvalue] at hruled
      simp only [hruled.eq_none, Option.none_or, List.findSome?_cons, violation?,
        targetPart_assignment hleft]
      by_cases hname : isVariable (targetName left) = true
      · obtain ⟨letter, hletter, hisLetter⟩ := isVariable_iff.1 hname
        rw [if_neg (by simp [hname]), c.assign_letter hletter hisLetter]
        exact ⟨x, rfl⟩
      · rw [Bool.not_eq_true] at hname
        rw [if_pos ⟨by simp, hname⟩, c.assign_eq_error hname]
        exact ⟨_, rfl, rfl⟩
  · have hequals : violation? c.strict line .tooManyEquals =
        some (Rejection.report (.tooManyEquals (line.count '='))) := by
      simp only [violation?]
      rw [if_pos htwo]
      rfl
    rw [hequals, c.evaluate_of_two_le htwo]
    exact ⟨_, rfl, rfl⟩

/-- An open parenthesis comes before a missing operand and a bad target. -/
example : ruling true "X = (1 +".toList = some (Rejection.report .unclosedLeft) := by
  decide +kernel

end LineCalc
