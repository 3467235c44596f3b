import LineCalc.Note
import LineCalc.Postfix.Conversion
import LineCalc.Postfix.Evaluation

/-!
# The calculator

A calculator evaluates lines and keeps the values of variables between them.  A line
without an assignment sign is an infix expression.  A line with one sign assigns the
value of the expression to the right of it to the variable to the left; the expression
is evaluated first, whatever stands to the left.  A line with more signs is rejected.

* `evaluate` gives the outcome of a line and the calculator after it.  How many signs a
  line has decides which way it goes (`evaluate_of_not_mem`, `evaluate_assignment`,
  `evaluate_of_two_le`).
* `toPostfixText` and `evaluatePostfixText` show and read postfix expressions; they
  leave the calculator as it is.
* `evaluationNotes`, `conversionNotes` and `postfixNotes` say what there is to be noted
  about such a call.

`Calculator.Action` names the operations, so that a history of them is a list.
-/

namespace LineCalc

open Text

/-- The character that assigns. -/
def isAssignmentSign (c : Char) : Bool :=
  c == '='

/-- A calculator: the values of its variables, and whether it rejects expressions that
leave more than one value. -/
structure Calculator where
  environment : Environment
  strict : Bool
  deriving DecidableEq

namespace Calculator

def infixValue (c : Calculator) (expression : Text) : Except Fault Float := do
  evaluatePostfix c.environment c.strict (← postfixOfLine expression)

/-- The name that stands to the left of an assignment sign. -/
def targetName (left : Text) : Text :=
  trim isBlank left

/-- The outcome of an assignment of `x` to what stands to the left of the sign. -/
def assign (c : Calculator) (left : Text) (x : Float) : Except Fault Float × Calculator :=
  match c.environment.assign (targetName left) x with
  | .ok env => (.ok x, ⟨env, c.strict⟩)
  | .error r => (.error (.rejected r), c)

/-- The outcome of a line, and the calculator after it. -/
def evaluate (c : Calculator) (line : Text) : Except Fault Float × Calculator :=
  match cutAt isAssignmentSign line with
  | [expression] => (c.infixValue expression, c)
  | [left, expression] =>
    match c.infixValue expression with
    | .ok x => c.assign left x
    | .error fault => (.error fault, c)
  | parts => (.error (.rejected (.tooManyEquals (parts.length - 1))), c)

/-- A line in postfix form. -/
def toPostfixText (expression : Text) : Except Fault Text :=
  (postfixOfLine expression).map render

/-- The value of a postfix expression. -/
def evaluatePostfixText (c : Calculator) (expression : Text) : Except Fault Float := do
  evaluatePostfix c.environment c.strict (← lexLine expression)

/-! ## Notes -/

/-- What there is to be noted about the evaluation of a postfix expression. -/
def discardNotes (c : Calculator) (tokens : List Token) : List Note :=
  let count := Evaluation.discarded c.environment tokens
  if !c.strict && 0 < count then [.discarded count (render tokens)] else []

/-- What there is to be noted about the value of an infix expression. -/
def infixNotes (c : Calculator) (expression : Text) : List Note :=
  match postfixOfLine expression with
  | .ok tokens => c.discardNotes tokens
  | .error _ => []

/-- What there is to be noted about the evaluation of a line. -/
def evaluationNotes (c : Calculator) (line : Text) : List Note :=
  match cutAt isAssignmentSign line with
  | [expression] => c.infixNotes expression
  | [left, expression] =>
    c.infixNotes expression ++
      match (c.evaluate line).1 with
      | .ok x => [.assigned (targetName left) x]
      | .error _ => []
  | _ => []

/-- What there is to be noted about the conversion of a line. -/
def conversionNotes (expression : Text) : List Note :=
  match toPostfixText expression with
  | .ok postfixText => [.converted expression postfixText]
  | .error _ => []

/-- What there is to be noted about the value of a postfix expression. -/
def postfixNotes (c : Calculator) (expression : Text) : List Note :=
  match lexLine expression with
  | .ok tokens => c.discardNotes tokens
  | .error _ => []

/-! ## Histories -/

inductive Action where
  | evaluate (line : Text)
  | toPostfix (expression : Text)
  | evaluatePostfix (expression : Text)

/-- What an operation answers. -/
inductive Reply where
  | number (value : Float)
  | postfixText (text : Text)
  | refused (fault : Fault)

/-- The answer to an operation, and the calculator after it. -/
def perform (c : Calculator) : Action → Reply × Calculator
  | .evaluate line =>
    match c.evaluate line with
    | (.ok x, c') => (.number x, c')
    | (.error fault, c') => (.refused fault, c')
  | .toPostfix expression =>
    match toPostfixText expression with
    | .ok text => (.postfixText text, c)
    | .error fault => (.refused fault, c)
  | .evaluatePostfix expression =>
    match c.evaluatePostfixText expression with
    | .ok x => (.number x, c)
    | .error fault => (.refused fault, c)

/-- The answers to operations one after another, and the calculator after them. -/
def performAll (c : Calculator) : List Action → List Reply × Calculator
  | [] => ([], c)
  | action :: rest =>
    let (reply, c') := c.perform action
    let (replies, c'') := c'.performAll rest
    (reply :: replies, c'')

/-! ## Lines by their assignment signs -/

/-- A line has no sign, one sign between two parts, or more. -/
theorem assignmentSign_cases (line : Text) :
    '=' ∉ line ∨
      (∃ left right, line = left ++ '=' :: right ∧ '=' ∉ left ∧ '=' ∉ right) ∨
      2 ≤ line.count '=' := by
  by_cases hmem : '=' ∈ line
  · obtain ⟨left, right, rfl, hleft⟩ := List.eq_append_cons_of_mem hmem
    by_cases hright : '=' ∈ right
    · have hcount := List.count_pos_iff.2 hright
      refine .inr (.inr ?_)
      rw [List.count_append, List.count_cons_self]
      omega
    · exact .inr (.inl ⟨left, right, rfl, hleft, hright⟩)
  · exact .inl hmem

theorem isAssignmentSign_eq_false {part : Text} (h : '=' ∉ part) :
    ∀ c ∈ part, isAssignmentSign c = false := by
  intro c hc
  rw [isAssignmentSign, beq_eq_false_iff_ne]
  rintro rfl
  exact h hc

theorem evaluate_of_not_mem (c : Calculator) {line : Text} (h : '=' ∉ line) :
    c.evaluate line = (c.infixValue line, c) := by
  rw [evaluate, cutAt_eq_singleton (isAssignmentSign_eq_false h)]

/-- A line with one sign assigns the value of the expression behind it. -/
theorem evaluate_assignment (c : Calculator) {left right : Text} (hleft : '=' ∉ left)
    (hright : '=' ∉ right) :
    c.evaluate (left ++ '=' :: right) =
      match c.infixValue right with
      | .ok x => c.assign left x
      | .error fault => (.error fault, c) := by
  rw [evaluate, cutAt_append_cons (isAssignmentSign_eq_false hleft) rfl,
    cutAt_eq_singleton (isAssignmentSign_eq_false hright)]

/-- A line with more than one sign has more than two parts. -/
theorem cutAt_of_two_le {line : Text} (h : 2 ≤ line.count '=') :
    ∃ first second third rest,
      cutAt isAssignmentSign line = first :: second :: third :: rest := by
  have hlength : (cutAt isAssignmentSign line).length = line.count '=' + 1 :=
    length_cutAt isAssignmentSign line
  generalize cutAt isAssignmentSign line = parts at hlength
  rcases parts with _ | ⟨first, _ | ⟨second, _ | ⟨third, rest⟩⟩⟩
  · simp at hlength
  · simp at hlength
    omega
  · simp at hlength
    omega
  · exact ⟨first, second, third, rest, rfl⟩

theorem evaluate_of_two_le (c : Calculator) {line : Text} (h : 2 ≤ line.count '=') :
    c.evaluate line = (.error (.rejected (.tooManyEquals (line.count '='))), c) := by
  have hlength : (cutAt isAssignmentSign line).length = line.count '=' + 1 :=
    length_cutAt isAssignmentSign line
  obtain ⟨first, second, third, rest, hcut⟩ := cutAt_of_two_le h
  rw [hcut] at hlength
  rw [evaluate, hcut]
  dsimp only
  rw [hlength, Nat.add_sub_cancel]

/-! ## Assignments by their target -/

theorem assign_letter (c : Calculator) {left : Text} {letter : Char}
    (hname : targetName left = [letter]) (hletter : isLetter letter = true) (x : Float) :
    c.assign left x = (.ok x, ⟨c.environment.set letter x, c.strict⟩) := by
  have htarget : c.environment.assign [letter] x = .ok (c.environment.set letter x) := by
    rw [Environment.assign, Environment.target, if_pos hletter]
    rfl
  rw [assign, hname, htarget]

theorem assign_eq_error (c : Calculator) {left : Text}
    (hname : isVariable (targetName left) = false) (x : Float) :
    c.assign left x = (.error (.rejected (.badTarget (targetName left))), c) := by
  have htarget : Environment.target (targetName left) = .error (.badTarget (targetName left)) := by
    unfold Environment.target
    split
    · next letter hletter =>
      rw [hletter, isVariable] at hname
      rw [hname]
      rfl
    · rfl
  rw [assign, Environment.assign, htarget]
  rfl

/-! ## What a line does to the variables -/

/-- A line that is not legal changes nothing. -/
theorem evaluate_error {c c' : Calculator} {line : Text} {fault : Fault}
    (h : c.evaluate line = (.error fault, c')) : c' = c := by
  simp only [evaluate] at h
  split at h
  · exact (Prod.mk.inj h).2.symm
  · split at h
    · simp only [assign] at h
      split at h
      · simp at h
      · exact (Prod.mk.inj h).2.symm
    · exact (Prod.mk.inj h).2.symm
  · exact (Prod.mk.inj h).2.symm

/-- No line changes whether leftover values are rejected. -/
theorem evaluate_strict (c : Calculator) (line : Text) :
    (c.evaluate line).2.strict = c.strict := by
  simp only [evaluate]
  split
  · rfl
  · split
    · simp only [assign]
      split <;> rfl
    · rfl
  · rfl

end Calculator

end LineCalc
