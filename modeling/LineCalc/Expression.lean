import LineCalc.Environment

/-!
# Expressions

An expression is a tree: its leaves are numbers and variables, and every inner node is
an operation on two expressions.

* `Expression.value` is the value of an expression in an environment.
* `Expression.postorder` lists its tokens, the operands of an operation before its
  operator.  This is its postfix form.
* `Infix level ts e` says that the tokens `ts` are an infix form of `e`.  A sum is
  products joined by operations of the lower rank, a product is factors joined by
  operations of the higher rank, and a factor is a number, a variable or a sum in
  parentheses.  Operations of one rank group to the left.  Parentheses leave no trace in
  the tree.
-/

namespace LineCalc

inductive Expression where
  | number (text : Text) (value : Float)
  | var (name : Text)
  | operation (op : Operation) (left right : Expression)

namespace Expression

def value (env : Environment) : Expression → Float
  | .number _ value => value
  | .var name => env.get name
  | .operation op left right => op.apply (left.value env) (right.value env)

/-- The postfix form of an expression. -/
def postorder : Expression → List Token
  | .number text value => [.number text value]
  | .var name => [.var name]
  | .operation op left right =>
    left.postorder ++ right.postorder ++ [.operator op.symbol]

end Expression

/-- How tightly the parts of an infix form are joined. -/
inductive Level where
  | sum
  | product
  | factor
  deriving DecidableEq

/-- The tokens are an infix form of the expression at the given level. -/
inductive Infix : Level → List Token → Expression → Prop where
  | number (text : Text) (value : Float) :
      Infix .factor [.number text value] (.number text value)
  | var (name : Text) : Infix .factor [.var name] (.var name)
  | group {ts : List Token} {e : Expression} (left right : Text) (h : Infix .sum ts e) :
      Infix .factor (.leftParen left :: ts ++ [.rightParen right]) e
  | ofFactor {ts : List Token} {e : Expression} (h : Infix .factor ts e) :
      Infix .product ts e
  | ofProduct {ts : List Token} {e : Expression} (h : Infix .product ts e) :
      Infix .sum ts e
  | product {op : Operation} {ts us : List Token} {e f : Expression} (hop : op.rank = 1)
      (hleft : Infix .product ts e) (hright : Infix .factor us f) :
      Infix .product (ts ++ .operator op.symbol :: us) (.operation op e f)
  | sum {op : Operation} {ts us : List Token} {e f : Expression} (hop : op.rank = 0)
      (hleft : Infix .sum ts e) (hright : Infix .product us f) :
      Infix .sum (ts ++ .operator op.symbol :: us) (.operation op e f)

end LineCalc
