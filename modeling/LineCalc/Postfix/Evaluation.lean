import LineCalc.Environment
import LineCalc.Lexer

/-!
# The value of a postfix expression

The tokens of a postfix expression are read one after another, with a stack of values.
An operand puts its value on the stack.  An operator takes two values off, first the
right operand and then the left one, and puts the result on.

`Evaluation.step` reads one token and `Evaluation.run` a list of them, from any stack.
`evaluatePostfix` asks for the value that is left.  A strict evaluation rejects an
expression that leaves more than one value; a lenient one gives the last.
-/

namespace LineCalc

namespace Evaluation

/-- The stack after an operator, the last value first. -/
def applyOperator (symbol : Text) : List Float → Except Fault (List Float)
  | right :: left :: rest =>
    match Operation.ofSymbol? symbol with
    | some op => .ok (op.apply left right :: rest)
    | none => .error (.unknownOperator symbol)
  | _ => .error (.rejected (.missingOperand symbol))

/-- The stack after one more token. -/
def step (env : Environment) (stack : List Float) : Token → Except Fault (List Float)
  | .number _ value => .ok (value :: stack)
  | .var name => .ok (env.get name :: stack)
  | .operator symbol => applyOperator symbol stack
  | .leftParen text => .error (.rejected (.badToken text))
  | .rightParen text => .error (.rejected (.badToken text))
  | .foreign description => .error (.rejected (.badToken description))

/-- The stack after more tokens. -/
def run (env : Environment) (stack : List Float) (tokens : List Token) :
    Except Fault (List Float) :=
  tokens.foldlM (step env) stack

/-- The value that a stack gives. -/
def result (strict : Bool) : List Float → Except Fault Float
  | [] => .error (.rejected .emptyExpression)
  | [x] => .ok x
  | x :: rest =>
    if strict then .error (.rejected (.leftoverOperands (rest.length + 1))) else .ok x

/-- How many values are left below the value of a lenient evaluation. -/
def discarded (env : Environment) (tokens : List Token) : Nat :=
  match run env [] tokens with
  | .ok stack => stack.length - 1
  | .error _ => 0

end Evaluation

/-- The value of a postfix expression. -/
def evaluatePostfix (env : Environment) (strict : Bool) (tokens : List Token) :
    Except Fault Float := do
  Evaluation.result strict (← Evaluation.run env [] tokens)

end LineCalc
