import LineCalc.Number.Division
import LineCalc.Number.Numeral
import LineCalc.Number.Printed
import LineCalc.Rejection

/-!
# Tokens

* `Operation` is one of the four binary operations, with its rank: an operation of
  higher rank binds its operands first, and operations of one rank do so from left to
  right.
* `Token` is a part of an expression.  A token made from a text knows its kind and
  keeps the text.
* `classify` makes the token of a text.  A text is a token of at most one kind.
* `render` writes tokens with a space between them.

The constructors check nothing, so tokens can be put together that no text is
classified as: an operator with another symbol, a parenthesis with another text, or
something that is no token at all, of which only a description is known.
-/

namespace LineCalc

/-- The four binary operations. -/
inductive Operation where
  | add
  | sub
  | mul
  | div
  deriving DecidableEq, Repr

namespace Operation

/-- The sign of an operation. -/
def symbol : Operation → Text
  | .add => ['+']
  | .sub => ['-']
  | .mul => ['*']
  | .div => ['/']

/-- The operation with the given sign. -/
def ofSymbol? : Text → Option Operation
  | ['+'] => some .add
  | ['-'] => some .sub
  | ['*'] => some .mul
  | ['/'] => some .div
  | _ => none

def rank : Operation → Nat
  | .add => 0
  | .sub => 0
  | .mul => 1
  | .div => 1

/-- The result of an operation in double arithmetic: a quotient by zero is infinite or
not a number, and nothing fails. -/
def apply : Operation → Float → Float → Float
  | .add, x, y => x + y
  | .sub, x, y => x - y
  | .mul, x, y => x * y
  | .div, x, y => Binary64.divide x y

@[simp] theorem ofSymbol?_symbol (op : Operation) : ofSymbol? op.symbol = some op := by
  cases op <;> rfl

theorem symbol_of_ofSymbol? {s : Text} {op : Operation} (h : ofSymbol? s = some op) :
    op.symbol = s := by
  unfold ofSymbol? at h
  split at h <;> simp_all <;> subst h <;> rfl

end Operation

/-- A part of an expression. -/
inductive Token where
  | number (text : Text) (value : Float)
  | var (name : Text)
  | operator (symbol : Text)
  | leftParen (text : Text)
  | rightParen (text : Text)
  /-- Something that is no token. -/
  | foreign (description : Text)
  deriving DecidableEq

/-- Whether a character is one of the 26 letters that name variables. -/
def isLetter (c : Char) : Bool :=
  'a' ≤ c && c ≤ 'z'

/-- Whether a text is the name of a variable. -/
def isVariable : Text → Bool
  | [c] => isLetter c
  | _ => false

theorem isVariable_iff {s : Text} : isVariable s = true ↔ ∃ c, s = [c] ∧ isLetter c = true := by
  constructor
  · intro h
    unfold isVariable at h
    split at h
    · next c => exact ⟨c, rfl, h⟩
    · cases h
  · rintro ⟨c, rfl, hc⟩
    exact hc

/-- Whether a text is a numeral. -/
def isNumber (s : Text) : Bool :=
  (readNumber? s).isSome

def isOperand (s : Text) : Bool :=
  isNumber s || isVariable s

/-- Whether a text is the sign of an operation. -/
def isOperator (s : Text) : Bool :=
  (Operation.ofSymbol? s).isSome

def isLeftParen (s : Text) : Bool :=
  s == ['(']

def isRightParen (s : Text) : Bool :=
  s == [')']

/-- The rank of the operation with the given sign. -/
def rankOf (symbol : Text) : Except Rejection Nat :=
  match Operation.ofSymbol? symbol with
  | some op => .ok op.rank
  | none => .error (.badToken symbol)

namespace Token

/-- The text of a token, or the description of what is no token. -/
def text : Token → Text
  | .number text _ => text
  | .var name => name
  | .operator symbol => symbol
  | .leftParen text => text
  | .rightParen text => text
  | .foreign description => description

/-- Whether a token is a number or a variable. -/
def isOperand : Token → Bool
  | .number _ _ => true
  | .var _ => true
  | _ => false

/-- Whether two tokens are of one kind and have one text.  What is no token is like
nothing. -/
def alike : Token → Token → Bool
  | .number s _, .number t _ => s == t
  | .var s, .var t => s == t
  | .operator s, .operator t => s == t
  | .leftParen s, .leftParen t => s == t
  | .rightParen s, .rightParen t => s == t
  | _, _ => false

/-- A token as one line for the reader of the program. -/
def shown : Token → String
  | .number text value =>
    s!"Number(text={Text.quoted text}, value={String.ofList (printNumber value)})"
  | .var name => s!"Variable(text={Text.quoted name})"
  | .operator symbol => s!"Operator(text={Text.quoted symbol})"
  | .leftParen text => s!"LeftParen(text={Text.quoted text})"
  | .rightParen text => s!"RightParen(text={Text.quoted text})"
  | .foreign description => String.ofList description

/-- The number token of a text that is a numeral. -/
def ofNumeral? (s : Text) : Option Token :=
  (readNumber? s).map (.number s)

end Token

def classify (s : Text) : Except Rejection Token :=
  if isVariable s then .ok (.var s)
  else if isOperator s then .ok (.operator s)
  else if isLeftParen s then .ok (.leftParen s)
  else if isRightParen s then .ok (.rightParen s)
  else
    match readNumber? s with
    | some value => .ok (.number s value)
    | none => .error (.badToken s)

/-- The texts of tokens with a space between them. -/
def render (tokens : List Token) : Text :=
  Text.join [' '] (tokens.map Token.text)

/-! ## What is classified keeps its text -/

theorem text_of_classify {s : Text} {t : Token} (h : classify s = .ok t) : t.text = s := by
  unfold classify at h
  split at h
  · cases h; rfl
  split at h
  · cases h; rfl
  split at h
  · cases h; rfl
  split at h
  · cases h; rfl
  split at h
  · cases h; rfl
  · cases h

end LineCalc
