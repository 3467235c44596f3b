import LineCalc.Expression
import LineCalc.Postfix.Evaluation
import LineCalc.Proofs.Tokens

/-!
# Evaluation and the expressions on the stack

The values on the stack of an evaluation are those of expressions, and the tokens that
have been read are the postfix forms of these expressions one after another.  `growAll`
reads a postfix expression to a stack of expressions, without any values.

* Reading back is exact: a postfix form gives its expression (`growAll_postorder`), and
  the expressions on the stack spell what has been read (`spelling_of_growAll`).  Hence an
  expression is known from its postfix form (`postorder_injective`).
* An evaluation goes as the expressions do, whatever the variables hold
  (`run_of_growAll`).
* Counting decides how far it goes.  `starved?` is the first operator with fewer than two
  operands, by the numbers of operands and operators before it.  An evaluation is stopped
  by it (`run_of_starvedAfter`), and without one it leaves as many values as there are
  operands more than operators (`exists_growAll`).
-/

namespace LineCalc

/-! ## Expressions on a stack -/

/-- The stack of expressions after one more token of a postfix expression. -/
def grow (trees : List Expression) : Token → Option (List Expression)
  | .number text value => some (.number text value :: trees)
  | .var name => some (.var name :: trees)
  | .operator symbol =>
    match trees, Operation.ofSymbol? symbol with
    | right :: left :: rest, some op => some (.operation op left right :: rest)
    | _, _ => none
  | _ => none

def growAll (trees : List Expression) (ps : List Token) : Option (List Expression) :=
  ps.foldlM grow trees

/-- The postfix forms of the expressions on a stack, the deepest first. -/
def spelling (trees : List Expression) : List Token :=
  trees.reverse.flatMap Expression.postorder

theorem growAll_cons (trees : List Expression) (t : Token) (ps : List Token) :
    growAll trees (t :: ps) = (grow trees t).bind fun trees' => growAll trees' ps :=
  List.foldlM_cons

theorem spelling_cons (e : Expression) (trees : List Expression) :
    spelling (e :: trees) = spelling trees ++ e.postorder := by
  rw [spelling, List.reverse_cons, List.flatMap_append, List.flatMap_singleton]
  rfl

theorem grow_operator (op : Operation) (left right : Expression) (trees : List Expression) :
    grow (right :: left :: trees) (.operator op.symbol) =
      some (.operation op left right :: trees) := by
  simp only [grow, Operation.ofSymbol?_symbol]

/-- A postfix form puts its expression on the stack. -/
theorem growAll_postorder (e : Expression) (trees : List Expression) (ps : List Token) :
    growAll trees (e.postorder ++ ps) = growAll (e :: trees) ps := by
  induction e generalizing trees ps with
  | number text value => rfl
  | var name => rfl
  | operation op left right ihleft ihright =>
    rw [Expression.postorder, List.append_assoc, List.append_assoc, ihleft, ihright,
      List.singleton_append, growAll_cons, grow_operator]
    rfl

/-- An expression is known from its postfix form. -/
theorem postorder_injective {e f : Expression} (h : e.postorder = f.postorder) : e = f := by
  have he := growAll_postorder e [] []
  rw [h, growAll_postorder f [] []] at he
  exact (List.head_eq_of_cons_eq (Option.some.inj he)).symm

theorem spelling_of_grow {trees trees' : List Expression} {t : Token}
    (h : grow trees t = some trees') : spelling trees' = spelling trees ++ [t] := by
  unfold grow at h
  split at h
  · cases h
    exact spelling_cons _ _
  · cases h
    exact spelling_cons _ _
  · next symbol =>
    split at h
    · next right left rest op hop =>
      cases h
      rw [spelling_cons, spelling_cons, spelling_cons, Expression.postorder,
        Operation.symbol_of_ofSymbol? hop]
      simp
    · cases h
  · cases h

/-- The expressions on the stack spell what has been read. -/
theorem spelling_of_growAll {trees trees' : List Expression} {ps : List Token}
    (h : growAll trees ps = some trees') : spelling trees' = spelling trees ++ ps := by
  induction ps generalizing trees with
  | nil =>
    cases h
    rw [List.append_nil]
  | cons t ps ih =>
    rw [growAll_cons] at h
    obtain ⟨middle, hgrow, hrest⟩ := Option.bind_eq_some_iff.1 h
    rw [ih hrest, spelling_of_grow hgrow, List.append_assoc]
    rfl

/-! ## Values go as the expressions do -/

theorem step_of_grow {env : Environment} {trees trees' : List Expression} {t : Token}
    (h : grow trees t = some trees') :
    Evaluation.step env (trees.map (Expression.value env)) t =
      .ok (trees'.map (Expression.value env)) := by
  unfold grow at h
  split at h
  · cases h
    rfl
  · cases h
    rfl
  · split at h
    · next right left rest op hop =>
      cases h
      simp only [Evaluation.step, List.map_cons, Evaluation.applyOperator, hop]
      rfl
    · cases h
  · cases h

theorem run_of_growAll {env : Environment} {trees trees' : List Expression} {ps : List Token}
    (h : growAll trees ps = some trees') :
    Evaluation.run env (trees.map (Expression.value env)) ps =
      .ok (trees'.map (Expression.value env)) := by
  induction ps generalizing trees with
  | nil =>
    cases h
    rfl
  | cons t ps ih =>
    rw [growAll_cons] at h
    obtain ⟨middle, hgrow, hrest⟩ := Option.bind_eq_some_iff.1 h
    rw [Evaluation.run, List.foldlM_cons, step_of_grow hgrow]
    exact ih hrest

theorem Evaluation.run_append (env : Environment) (stack : List Float) (ps qs : List Token) :
    run env stack (ps ++ qs) = run env stack ps >>= fun stack' => run env stack' qs :=
  List.foldlM_append

/-- A postfix form puts the value of its expression on any stack. -/
theorem Evaluation.run_postorder (env : Environment) (e : Expression) (stack : List Float)
    (ps : List Token) : run env stack (e.postorder ++ ps) = run env (e.value env :: stack) ps := by
  induction e generalizing stack ps with
  | number text value => rfl
  | var name => rfl
  | operation op left right ihleft ihright =>
    have hstep : step env (right.value env :: left.value env :: stack) (.operator op.symbol) =
        .ok (op.apply (left.value env) (right.value env) :: stack) := by
      rw [step, applyOperator, Operation.ofSymbol?_symbol]
    rw [Expression.postorder, List.append_assoc, List.append_assoc, ihleft, ihright,
      List.singleton_append, run, List.foldlM_cons, hstep]
    rfl

/-- A run reads no variables but those among its tokens. -/
theorem Evaluation.run_congr {env env' : Environment} {ps : List Token}
    (h : ∀ name, Token.var name ∈ ps → env.get name = env'.get name) (stack : List Float) :
    run env stack ps = run env' stack ps := by
  induction ps generalizing stack with
  | nil => rfl
  | cons t ps ih =>
    have hstep : step env stack t = step env' stack t := by
      cases t with
      | var name => rw [step, step, h name List.mem_cons_self]
      | _ => rfl
    rw [run, run, List.foldlM_cons, List.foldlM_cons, hstep]
    cases step env' stack t with
    | error fault => rfl
    | ok stack' => exact ih (fun name hname => h name (List.mem_cons_of_mem _ hname)) stack'

/-- A postfix form has the value of its expression. -/
theorem evaluatePostfix_postorder (env : Environment) (strict : Bool) (e : Expression) :
    evaluatePostfix env strict e.postorder = .ok (e.value env) := by
  have hgrow := growAll_postorder e [] []
  rw [List.append_nil] at hgrow
  have hrun : Evaluation.run env [] e.postorder = .ok [e.value env] := run_of_growAll hgrow
  rw [evaluatePostfix, hrun]
  rfl

/-! ## Counting operands and operators -/

/-- The symbol of the first operator with fewer than two operands: among the tokens before
it, operands must outnumber operators by two.  The tokens `before` have been read. -/
def starvedAfter (before : List Token) : List Token → Option Text
  | [] => none
  | t :: rest =>
    if t.isOperator &&
        before.countP Token.isOperand < before.countP Token.isOperator + 2 then
      some t.text
    else starvedAfter (before ++ [t]) rest

/-- The symbol of the first operator of a postfix expression that has fewer than two
operands. -/
def starved? (ps : List Token) : Option Text :=
  starvedAfter [] ps

/-- As many expressions or values as operands outnumber operators. -/
def Surplus (ts : List Token) (count : Nat) : Prop :=
  ts.countP Token.isOperand = ts.countP Token.isOperator + count

theorem Surplus.operand {ts : List Token} {count : Nat} (h : Surplus ts count) {t : Token}
    (hoperand : t.isOperand = true) (hoperator : t.isOperator = false) :
    Surplus (ts ++ [t]) (count + 1) := by
  simp only [Surplus, List.countP_append, List.countP_singleton, hoperand, hoperator] at h ⊢
  simp
  omega

theorem Surplus.operator {ts : List Token} {count : Nat} (h : Surplus ts (count + 2))
    (symbol : Text) : Surplus (ts ++ [.operator symbol]) (count + 1) := by
  simp only [Surplus, List.countP_append, List.countP_singleton, Token.isOperand,
    Token.isOperator] at h ⊢
  simp
  omega

def Plain (ps : List Token) : Prop :=
  ∀ t ∈ ps, t.belongs = true ∧ t.isParen = false

/-- Without a starved operator a postfix expression is read to the end.  It leaves as many
expressions as operands outnumber operators. -/
theorem exists_growAll {before ps : List Token} {trees : List Expression} (hps : Plain ps)
    (hstarved : starvedAfter before ps = none) (hsurplus : Surplus before trees.length) :
    ∃ trees', growAll trees ps = some trees' ∧ Surplus (before ++ ps) trees'.length := by
  induction ps generalizing before trees with
  | nil =>
    rw [List.append_nil]
    exact ⟨trees, rfl, hsurplus⟩
  | cons t ps ih =>
    obtain ⟨⟨hbelongs, hparen⟩, htail⟩ := List.forall_mem_cons.1 hps
    rw [starvedAfter] at hstarved
    split at hstarved
    · cases hstarved
    next hfed =>
    rw [List.append_cons, growAll_cons]
    cases t with
    | number text value => exact ih htail hstarved (hsurplus.operand rfl rfl)
    | var name => exact ih htail hstarved (hsurplus.operand rfl rfl)
    | operator symbol =>
      obtain ⟨op, hop⟩ := Token.exists_operation hbelongs
      obtain rfl := Operation.symbol_of_ofSymbol? hop
      match trees with
      | [] =>
        simp [Token.isOperator, Surplus] at hfed hsurplus
        omega
      | [_] =>
        simp [Token.isOperator, Surplus] at hfed hsurplus
        omega
      | right :: left :: rest =>
        rw [grow_operator]
        exact ih htail hstarved (hsurplus.operator op.symbol)
    | leftParen text => cases hparen
    | rightParen text => cases hparen
    | foreign description => cases hbelongs

theorem run_of_starvedAfter {env : Environment} {before ps : List Token} {stack : List Float}
    {symbol : Text} (hps : Plain ps) (hstarved : starvedAfter before ps = some symbol)
    (hsurplus : Surplus before stack.length) :
    Evaluation.run env stack ps = .error (.rejected (.missingOperand symbol)) := by
  induction ps generalizing before stack with
  | nil => cases hstarved
  | cons t ps ih =>
    obtain ⟨⟨hbelongs, hparen⟩, htail⟩ := List.forall_mem_cons.1 hps
    rw [starvedAfter] at hstarved
    rw [Evaluation.run, List.foldlM_cons]
    cases t with
    | number text value => exact ih htail hstarved (hsurplus.operand rfl rfl)
    | var name => exact ih htail hstarved (hsurplus.operand rfl rfl)
    | operator sign =>
      -- The counts give the height of the stack, so they tell whether two values are there.
      match stack with
      | right :: left :: rest =>
        obtain ⟨op, hop⟩ := Token.exists_operation hbelongs
        have hstep : Evaluation.step env (right :: left :: rest) (.operator sign) =
            .ok (op.apply left right :: rest) := by
          simp only [Evaluation.step, Evaluation.applyOperator, hop]
        have hfed : ¬ before.countP Token.isOperand < before.countP Token.isOperator + 2 := by
          rw [hsurplus, List.length_cons, List.length_cons]
          omega
        rw [hstep]
        rw [if_neg (by simp [hfed])] at hstarved
        exact ih htail hstarved (hsurplus.operator sign)
      | [] | [_] =>
        have hfew : before.countP Token.isOperand < before.countP Token.isOperator + 2 := by
          rw [hsurplus]
          simp
        rw [if_pos (by simp [Token.isOperator, hfew])] at hstarved
        cases hstarved
        rfl
    | leftParen text => cases hparen
    | rightParen text => cases hparen
    | foreign description => cases hbelongs

/-! ## The outcome -/

/-- A strict evaluation has a value where one value is left. -/
theorem result_true_eq_ok {stack : List Float} {x : Float} :
    Evaluation.result true stack = .ok x ↔ stack = [x] := by
  match stack with
  | [] => simp [Evaluation.result]
  | [y] => simp [Evaluation.result]
  | y :: z :: rest => simp [Evaluation.result]

/-- A lenient evaluation has the last value that is left. -/
theorem result_false_eq_ok {stack : List Float} {x : Float} :
    Evaluation.result false stack = .ok x ↔ stack.head? = some x := by
  match stack with
  | [] => simp [Evaluation.result]
  | [y] => simp [Evaluation.result]
  | y :: z :: rest => simp [Evaluation.result]

variable {env : Environment} {strict : Bool} {ps : List Token}

theorem evaluatePostfix_of_growAll {trees : List Expression} (h : growAll [] ps = some trees) :
    evaluatePostfix env strict ps =
      Evaluation.result strict (trees.map (Expression.value env)) := by
  have hrun : Evaluation.run env [] ps = .ok (trees.map (Expression.value env)) :=
    run_of_growAll h
  rw [evaluatePostfix, hrun]
  rfl

theorem evaluatePostfix_of_starved {symbol : Text} (hps : Plain ps)
    (h : starved? ps = some symbol) :
    evaluatePostfix env strict ps = .error (.rejected (.missingOperand symbol)) := by
  have hrun : Evaluation.run env [] ps = .error (.rejected (.missingOperand symbol)) :=
    run_of_starvedAfter hps h rfl
  rw [evaluatePostfix, hrun]
  rfl

theorem exists_spelling (hps : Plain ps) (h : starved? ps = none) :
    ∃ trees, growAll [] ps = some trees ∧ spelling trees = ps ∧ Surplus ps trees.length := by
  have hnone : Surplus [] ([] : List Expression).length := rfl
  obtain ⟨trees, hgrow, hsurplus⟩ := exists_growAll hps h hnone
  exact ⟨trees, hgrow, spelling_of_growAll hgrow, hsurplus⟩

end LineCalc
