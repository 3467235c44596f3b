import LineCalc.Proofs.Ruling

/-!
# What changes the variables

`Calculator.Effect` lists what a line can do to a calculator: nothing, with a rejection or
with a value, or an assignment of the value of the expression to a letter.  `effect_evaluate`
says that it does nothing else, whichever of its steps has failed.

A history is a list of operations with their answers.  `assigned? letter` picks the value
of a legal assignment to the letter from an entry of a history, and `performAll_value?` says
that a letter holds the value of the last such entry, or its first value if there is none.
One operation is `perform_value?`; the histories are an induction over it.
-/

namespace LineCalc

namespace Calculator

/-! ## One line -/

/-- The effects of a line on a calculator, with its outcome. -/
inductive Effect (c : Calculator) : Text → Except Fault Float × Calculator → Prop where
  | rejected (line : Text) (fault : Fault) : Effect c line (.error fault, c)
  | expression {line : Text} {x : Float} (hline : '=' ∉ line) : Effect c line (.ok x, c)
  | assignment {left right : Text} {letter : Char} {x : Float} (hleft : '=' ∉ left)
      (hright : '=' ∉ right) (hname : targetName left = [letter])
      (hletter : isLetter letter = true) (hvalue : c.infixValue right = .ok x) :
      Effect c (left ++ '=' :: right) (.ok x, ⟨c.environment.set letter x, c.strict⟩)

/-- A line has one of these effects. -/
theorem effect_evaluate (c : Calculator) (line : Text) : Effect c line (c.evaluate line) := by
  rcases assignmentSign_cases line with hnone | ⟨left, right, rfl, hleft, hright⟩ | htwo
  · rw [c.evaluate_of_not_mem hnone]
    cases c.infixValue line with
    | error fault => exact .rejected line fault
    | ok x => exact .expression hnone
  · rw [c.evaluate_assignment hleft hright]
    cases hvalue : c.infixValue right with
    | error fault => exact .rejected _ fault
    | ok x =>
      by_cases hname : isVariable (targetName left) = true
      · obtain ⟨letter, hname, hletter⟩ := isVariable_iff.1 hname
        show Effect c _ (c.assign left x)
        rw [c.assign_letter hname hletter]
        exact .assignment hleft hright hname hletter hvalue
      · rw [Bool.not_eq_true] at hname
        show Effect c _ (c.assign left x)
        rw [c.assign_eq_error hname]
        exact .rejected _ _
  · rw [c.evaluate_of_two_le htwo]
    exact .rejected line _

theorem evaluate_expression (c : Calculator) {line : Text} (hline : '=' ∉ line) :
    (c.evaluate line).2 = c := by
  rw [c.evaluate_of_not_mem hline]

/-- A legal assignment gives the value of its expression to its letter. -/
theorem evaluate_assigns {c : Calculator} {left right : Text} {x : Float}
    (h : (c.evaluate (left ++ '=' :: right)).1 = .ok x) :
    c.evaluate right = (.ok x, c) ∧
      ∃ letter, targetName left = [letter] ∧ isLetter letter = true ∧
        (c.evaluate (left ++ '=' :: right)).2 = ⟨c.environment.set letter x, c.strict⟩ := by
  generalize hline : left ++ '=' :: right = line at h
  have heffect := c.effect_evaluate line
  generalize houtcome : c.evaluate line = outcome at h heffect
  cases heffect with
  | rejected => cases h
  | expression hnone =>
    rw [← hline] at hnone
    simp at hnone
  | @assignment left' right' letter y hleft hright hname hletter hvalue =>
    cases h
    obtain ⟨rfl, -, rfl⟩ := (List.append_cons_inj_of_notMem hleft hright).1 hline.symm
    rw [c.evaluate_of_not_mem hright, hvalue]
    exact ⟨rfl, letter, hname, hletter, rfl⟩

/-! ## Histories -/

/-- The value that an operation has assigned to the letter, if it was a legal assignment
to it. -/
def assigned? (letter : Char) : Action × Reply → Option Float
  | (.evaluate line, .number x) =>
    if line.count '=' = 1 ∧ targetPart line = [letter] then some x else none
  | _ => none

/-- The value of the last legal assignment to the letter in a history. -/
def lastAssigned? (letter : Char) (history : List (Action × Reply)) : Option Float :=
  (history.filterMap (assigned? letter)).getLast?

theorem lastAssigned?_cons (letter : Char) (entry : Action × Reply)
    (history : List (Action × Reply)) :
    lastAssigned? letter (entry :: history) =
      (lastAssigned? letter history).or (assigned? letter entry) := by
  rw [lastAssigned?, List.filterMap_cons, lastAssigned?]
  cases assigned? letter entry with
  | none => simp
  | some x =>
    show (x :: history.filterMap (assigned? letter)).getLast? = _
    rw [List.getLast?_cons]
    cases (history.filterMap (assigned? letter)).getLast? <;> rfl

theorem perform_toPostfix (c : Calculator) (expression : Text) :
    (c.perform (.toPostfix expression)).2 = c := by
  rw [perform]
  cases toPostfixText expression <;> rfl

theorem perform_evaluatePostfix (c : Calculator) (expression : Text) :
    (c.perform (.evaluatePostfix expression)).2 = c := by
  rw [perform]
  cases c.evaluatePostfixText expression <;> rfl

/-- An operation changes the letter just if it is a legal assignment to it. -/
theorem perform_value? (c : Calculator) (action : Action) (letter : Char) :
    (c.perform action).2.environment.value? letter =
      (assigned? letter (action, (c.perform action).1)).or (c.environment.value? letter) := by
  cases action with
  | toPostfix expression =>
    rw [perform_toPostfix]
    rfl
  | evaluatePostfix expression =>
    rw [perform_evaluatePostfix]
    rfl
  | evaluate line =>
    rw [perform]
    have heffect := c.effect_evaluate line
    generalize c.evaluate line = outcome at heffect
    cases heffect with
    | rejected => rfl
    | expression hline =>
      have hcount : line.count '=' = 0 := List.count_eq_zero_of_not_mem hline
      simp [assigned?, hcount]
    | @assignment left right target x hleft hright hname hletter hvalue =>
      have hcount : (left ++ '=' :: right).count '=' = 1 := by
        simp [List.count_eq_zero_of_not_mem hleft, List.count_eq_zero_of_not_mem hright]
      simp only [assigned?, hcount, targetPart_assignment hleft, hname, Environment.value?_set]
      by_cases hsame : letter = target
      · simp [hsame]
      · simp [hsame, Ne.symm hsame]

/-- After operations one after another a letter holds the value of the last legal
assignment to it, or its first value. -/
theorem performAll_value? (c : Calculator) (actions : List Action) (letter : Char) :
    (c.performAll actions).2.environment.value? letter =
      (lastAssigned? letter (actions.zip (c.performAll actions).1)).or
        (c.environment.value? letter) := by
  induction actions generalizing c with
  | nil => rfl
  | cons action rest ih =>
    rw [performAll, List.zip_cons_cons, lastAssigned?_cons, ih, perform_value?]
    exact Option.or_assoc.symm

/-- Variables change by legal assignments only.  A line that is rejected or does not assign
leaves the calculator as it is, and so do the operations on postfix expressions.  A legal
assignment gives the value that its expression has before it, to one letter.  Hence, after
any operations, a letter holds the value of the last legal assignment to it. -/
theorem change_by_assignment :
    (∀ (c : Calculator) (line : Text),
      (∀ fault, (c.evaluate line).1 = .error fault → (c.evaluate line).2 = c) ∧
        ('=' ∉ line → (c.evaluate line).2 = c) ∧
        ∀ left right x, line = left ++ '=' :: right → (c.evaluate line).1 = .ok x →
          c.evaluate right = (.ok x, c) ∧
            ∃ letter, Text.trim Text.isBlank left = [letter] ∧ isLetter letter = true ∧
              (c.evaluate line).2.environment.value? letter = some x ∧
              ∀ other, other ≠ letter →
                (c.evaluate line).2.environment.value? other = c.environment.value? other) ∧
      (∀ (c : Calculator) (expression : Text),
        (c.perform (.toPostfix expression)).2 = c ∧
          (c.perform (.evaluatePostfix expression)).2 = c) ∧
      ∀ (c : Calculator) (actions : List Action) (letter : Char),
        (c.performAll actions).2.environment.value? letter =
          (lastAssigned? letter (actions.zip (c.performAll actions).1)).or
            (c.environment.value? letter) := by
  refine ⟨fun c line => ⟨?_, ?_, ?_⟩, ?_, performAll_value?⟩
  · intro fault h
    exact evaluate_error (Prod.ext h rfl)
  · intro hline
    exact c.evaluate_expression hline
  · rintro left right x rfl h
    obtain ⟨hvalue, letter, hname, hletter, hafter⟩ := evaluate_assigns h
    refine ⟨hvalue, letter, hname, hletter, ?_, ?_⟩
    · rw [hafter, Environment.value?_set, if_pos rfl]
    · intro other hother
      rw [hafter, Environment.value?_set, if_neg hother]
  · intro c expression
    exact ⟨c.perform_toPostfix expression, c.perform_evaluatePostfix expression⟩

theorem change_by_assignment_self :
    ((⟨.empty, true⟩ : Calculator).performAll
        [.evaluate "x = 2".toList, .evaluate "x = x + 1".toList, .evaluate "x = 1 2".toList,
          .evaluatePostfix "4".toList]).2.environment.value? 'x' = some 3 := by
  rw [change_by_assignment.2.2]
  decide +kernel

end Calculator

end LineCalc
