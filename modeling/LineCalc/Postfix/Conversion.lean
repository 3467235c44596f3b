import LineCalc.Lexer

/-!
# From infix to postfix

The tokens of an infix expression are read one after another.  Operands are emitted at
once; operators and left parentheses wait on a stack.

* An operator first releases the operators on top of the stack whose rank is not below
  its own, then waits itself.
* A right parenthesis releases the operators above the last left parenthesis, and both
  parentheses are gone.
* At the end all operators are released.

`Conversion.step` reads one token, so that every state on the way can be spoken about,
and `Conversion.finish` ends the reading.  `toPostfix` is the whole conversion.

Ranks are compared only where an operator meets one on the stack; an operator without a
rank is a fault there, and nowhere else.
-/

namespace LineCalc

/-- The rank of an operator token. -/
def operatorRank (symbol : Text) : Except Fault Nat :=
  match Operation.ofSymbol? symbol with
  | some op => .ok op.rank
  | none => .error (.unknownOperator symbol)

/-- A conversion that is under way: the waiting tokens, the last one first, and the
emitted tokens, the last one first. -/
structure Conversion where
  stack : List Token
  emitted : List Token

namespace Conversion

/-- Nothing has been read. -/
def start : Conversion := ⟨[], []⟩

/-- The conversion after the release of the operators on top of the stack whose rank is
not below that of `symbol`. -/
def release (symbol : Text) (emitted : List Token) : List Token → Except Fault Conversion
  | .operator top :: rest => do
    let topRank ← operatorRank top
    let rank ← operatorRank symbol
    if rank ≤ topRank then release symbol (.operator top :: emitted) rest
    else .ok ⟨.operator top :: rest, emitted⟩
  | stack => .ok ⟨stack, emitted⟩

/-- The conversion after the release of the tokens above the last left parenthesis,
which is taken away. -/
def closeGroup (emitted : List Token) : List Token → Except Fault Conversion
  | [] => .error (.rejected .unmatchedRight)
  | .leftParen _ :: rest => .ok ⟨rest, emitted⟩
  | top :: rest => closeGroup (top :: emitted) rest

/-- The conversion after one more token. -/
def step (s : Conversion) : Token → Except Fault Conversion
  | .number text value => .ok ⟨s.stack, .number text value :: s.emitted⟩
  | .var name => .ok ⟨s.stack, .var name :: s.emitted⟩
  | .leftParen text => .ok ⟨.leftParen text :: s.stack, s.emitted⟩
  | .rightParen _ => closeGroup s.emitted s.stack
  | .operator symbol => do
    let released ← release symbol s.emitted s.stack
    .ok ⟨.operator symbol :: released.stack, released.emitted⟩
  | .foreign description => .error (.rejected (.badToken description))

/-- The emitted tokens, the last one first, after the release of a stack. -/
def releaseAll (emitted : List Token) : List Token → Except Fault (List Token)
  | [] => .ok emitted
  | .leftParen _ :: _ => .error (.rejected .unclosedLeft)
  | top :: rest => releaseAll (top :: emitted) rest

/-- The postfix expression of a conversion that has read everything. -/
def finish (s : Conversion) : Except Fault (List Token) :=
  (releaseAll s.emitted s.stack).map List.reverse

/-- The conversion after more tokens. -/
def run (s : Conversion) (tokens : List Token) : Except Fault Conversion :=
  tokens.foldlM step s

end Conversion

/-- The postfix expression of an infix expression. -/
def toPostfix (tokens : List Token) : Except Fault (List Token) := do
  (← Conversion.start.run tokens).finish

/-- The postfix expression of a line. -/
def postfixOfLine (line : Text) : Except Fault (List Token) := do
  toPostfix (← lexLine line)

end LineCalc
