import LineCalc.Text.Quoted

/-!
# Why a line is rejected

A line is legal or breaks exactly one rule.  `Rejection` says which one and with
what, so that the parts of the calculator can pass it on without wording it.
`Rejection.report` words it: the rule, a message and, where one part of the line is to
blame, that part.

`Fault` is what can go wrong with tokens that no line consists of: apart from a
rejection, an operator token whose symbol is not one of the four operators.
-/

namespace LineCalc

/-- The rules that a legal line obeys. -/
inductive Rule where
  /-- There is at most one assignment sign. -/
  | tooManyEquals
  /-- What is assigned to is a single lowercase letter. -/
  | badTarget
  /-- Every token is a number, a variable, an operator or a parenthesis. -/
  | badToken
  /-- Parentheses are balanced. -/
  | badParenthesis
  /-- Every operator has two operands. -/
  | missingOperand
  /-- One value is left at the end. -/
  | leftoverOperands
  /-- There is an expression. -/
  | emptyExpression
  deriving DecidableEq, Repr

namespace Rule

def all : List Rule :=
  [.tooManyEquals, .badTarget, .badToken, .badParenthesis, .missingOperand, .leftoverOperands,
    .emptyExpression]

/-- The word for a rule in reports. -/
def label : Rule → String
  | .tooManyEquals => "too_many_equals"
  | .badTarget => "bad_assign_lhs"
  | .badToken => "bad_token"
  | .badParenthesis => "bad_paren"
  | .missingOperand => "stack_underflow"
  | .leftoverOperands => "stack_residue"
  | .emptyExpression => "empty_expression"

/-- The word for a rule in capital letters. -/
def title (rule : Rule) : String :=
  rule.label.toUpper

/-- The rule with the given word. -/
def ofLabel? (label : String) : Option Rule :=
  all.find? (·.label == label)

/-- The message for a word that names no rule. -/
def unknownLabel (label : String) : String :=
  s!"{Text.quoted label.toList} is not a valid ErrorKind"

/-- The message for a line that breaks a rule, when there is nothing more to say. -/
def message : Rule → String
  | .tooManyEquals => "More than one assignment sign"
  | .badTarget => "Assignment target is not a single lowercase letter"
  | .badToken => "Unknown token"
  | .badParenthesis => "Unbalanced parentheses"
  | .missingOperand => "Operator is missing an operand"
  | .leftoverOperands => "Operands left over after evaluation"
  | .emptyExpression => "Empty expression"

end Rule

/-- A rejection in words: the rule, the message and the part of the line to blame. -/
structure Report where
  rule : Rule
  message : String
  token : Option Text
  deriving DecidableEq, Repr

namespace Report

/-- The report on a broken rule.  Unless a message is given, it is the message of the
rule, followed by the part of the line to blame if there is one. -/
def ofRule (rule : Rule) (message? : Option String) (token : Option Text) : Report :=
  let message := message?.getD <|
    match token with
    | none => rule.message
    | some t => s!"{rule.message}: '{String.ofList t}'"
  ⟨rule, message, token⟩

/-- A report as one line for the reader of the program. -/
def shown (r : Report) : String :=
  s!"IllegalExpressionError({r.rule.title}, {Text.quoted r.message.toList})"

end Report

/-- Why a line is rejected. -/
inductive Rejection where
  /-- There are `count` assignment signs, more than one. -/
  | tooManyEquals (count : Nat)
  /-- The text to the left of the assignment sign is not a lowercase letter. -/
  | badTarget (name : Text)
  /-- The text is no token, or a token that does not belong in an expression. -/
  | badToken (text : Text)
  /-- A right parenthesis has no left one before it. -/
  | unmatchedRight
  /-- A left parenthesis has no right one behind it. -/
  | unclosedLeft
  /-- The operator finds fewer than two operands. -/
  | missingOperand (symbol : Text)
  /-- There are `count` values at the end, more than one. -/
  | leftoverOperands (count : Nat)
  /-- There is no value at the end. -/
  | emptyExpression
  deriving DecidableEq, Repr

namespace Rejection

/-- The rule that was broken. -/
def rule : Rejection → Rule
  | .tooManyEquals _ => .tooManyEquals
  | .badTarget _ => .badTarget
  | .badToken _ => .badToken
  | .unmatchedRight => .badParenthesis
  | .unclosedLeft => .badParenthesis
  | .missingOperand _ => .missingOperand
  | .leftoverOperands _ => .leftoverOperands
  | .emptyExpression => .emptyExpression

/-- The rejection in words. -/
def report : Rejection → Report
  | .tooManyEquals count =>
    .ofRule .tooManyEquals (some s!"Found {count} assignment signs") none
  | .badTarget name => .ofRule .badTarget none (some name)
  | .badToken text => .ofRule .badToken none (some text)
  | .unmatchedRight =>
    .ofRule .badParenthesis
      (some "Right parenthesis without a matching left parenthesis") none
  | .unclosedLeft => .ofRule .badParenthesis (some "Unclosed left parenthesis") none
  | .missingOperand symbol => .ofRule .missingOperand none (some symbol)
  | .leftoverOperands count =>
    .ofRule .leftoverOperands
      (some s!"Expected one value after evaluation, found {count}") none
  | .emptyExpression => .ofRule .emptyExpression none none

/-- The report is on the rule that was broken. -/
theorem rule_report (r : Rejection) : r.report.rule = r.rule := by
  cases r <;> rfl

end Rejection

/-- What can go wrong with tokens. -/
inductive Fault where
  /-- The line that the tokens come from breaks a rule. -/
  | rejected (reason : Rejection)
  /-- An operator token has a symbol that is not one of the four operators.  Lexing
  makes no such token. -/
  | unknownOperator (symbol : Text)
  deriving DecidableEq, Repr

namespace Fault

/-- The fault in a word. -/
def label : Fault → String
  | .rejected r => r.rule.label
  | .unknownOperator _ => "unknown_operator"

def message : Fault → String
  | .rejected r => r.report.message
  | .unknownOperator symbol => Text.quoted symbol

end Fault

end LineCalc
