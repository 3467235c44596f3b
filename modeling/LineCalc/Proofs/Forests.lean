import LineCalc.Proofs.Evaluation

/-!
# The postfix language

A postfix expression that is read to its end consists of postfix forms one after another,
and the evaluation leaves their values.  `forest` writes expressions in this way.

* A forest is read back exactly (`growAll_forest`), so its expressions are known from its
  tokens (`forest_injective`), and there are as many as operands outnumber operators
  (`surplus_forest`).
* The forests are the lists of operands and operators in which no operator is starved
  (`exists_forest_iff`).
* An operator that is starved stays so, whatever follows (`evaluatePostfix_append`).
-/

namespace LineCalc

/-- The postfix forms of expressions, one after another. -/
def forest (trees : List Expression) : List Token :=
  trees.flatMap Expression.postorder

/-! ## Reading a forest -/

theorem growAll_forest (trees stack : List Expression) :
    growAll stack (forest trees) = some (trees.reverse ++ stack) := by
  induction trees generalizing stack with
  | nil => rfl
  | cons e trees ih =>
    rw [forest, List.flatMap_cons, growAll_postorder]
    show growAll (e :: stack) (forest trees) = _
    rw [ih, List.reverse_cons, List.append_assoc]
    rfl

/-- Expressions are known from their postfix forms one after another. -/
theorem forest_injective {trees trees' : List Expression} (h : forest trees = forest trees') :
    trees = trees' := by
  have hread := growAll_forest trees []
  rw [h, growAll_forest trees', List.append_nil, List.append_nil, Option.some.injEq] at hread
  exact (List.reverse_inj.1 hread).symm

theorem Surplus.append {ts us : List Token} {count count' : Nat} (hts : Surplus ts count)
    (hus : Surplus us count') : Surplus (ts ++ us) (count + count') := by
  rw [Surplus] at hts hus ⊢
  rw [List.countP_append, List.countP_append]
  omega

theorem surplus_postorder (e : Expression) : Surplus e.postorder 1 := by
  induction e with
  | number text value => rfl
  | var name => rfl
  | operation op left right ihleft ihright => exact (ihleft.append ihright).operator op.symbol

/-- There are as many expressions as operands outnumber operators. -/
theorem surplus_forest (trees : List Expression) : Surplus (forest trees) trees.length := by
  induction trees with
  | nil => rfl
  | cons e trees ih =>
    rw [List.length_cons, Nat.add_comm]
    exact (surplus_postorder e).append ih

/-! ## The outcome -/

variable {env : Environment} {strict : Bool}

/-- A forest leaves the values of its expressions, that of the last one on top. -/
theorem evaluatePostfix_forest (trees : List Expression) :
    evaluatePostfix env strict (forest trees) =
      Evaluation.result strict (trees.reverse.map (Expression.value env)) := by
  rw [evaluatePostfix_of_growAll (growAll_forest trees []), List.append_nil]

/-- No operator is missing an operand when the values are left. -/
theorem result_ne_missingOperand (stack : List Float) (symbol : Text) :
    Evaluation.result strict stack ≠ .error (.rejected (.missingOperand symbol)) := by
  match stack with
  | [] => simp [Evaluation.result]
  | [x] => simp [Evaluation.result]
  | x :: y :: rest => cases strict <;> simp [Evaluation.result]

/-- The lists of operands and operators that are read to the end are the forests. -/
theorem exists_forest_iff {ps : List Token} (hps : Plain ps) (env : Environment)
    (strict : Bool) :
    (∃ trees, forest trees = ps) ↔
      ∀ symbol, evaluatePostfix env strict ps ≠ .error (.rejected (.missingOperand symbol)) := by
  constructor
  · rintro ⟨trees, rfl⟩ symbol
    rw [evaluatePostfix_forest]
    exact result_ne_missingOperand _ symbol
  · intro h
    cases hstarved : starved? ps with
    | some symbol => exact absurd (evaluatePostfix_of_starved hps hstarved) (h symbol)
    | none =>
      obtain ⟨trees, -, hspelling, -⟩ := exists_spelling hps hstarved
      exact ⟨trees.reverse, hspelling⟩

theorem run_of_evaluatePostfix {ps : List Token} {symbol : Text}
    (h : evaluatePostfix env strict ps = .error (.rejected (.missingOperand symbol))) :
    Evaluation.run env [] ps = .error (.rejected (.missingOperand symbol)) := by
  rw [evaluatePostfix] at h
  cases hrun : Evaluation.run env [] ps with
  | error fault =>
    rw [hrun] at h
    cases h
    rfl
  | ok stack =>
    rw [hrun] at h
    exact absurd h (result_ne_missingOperand stack symbol)

/-- A starved operator stops the evaluation, whatever follows. -/
theorem evaluatePostfix_append {ps : List Token} {symbol : Text}
    (h : evaluatePostfix env strict ps = .error (.rejected (.missingOperand symbol)))
    (more : List Token) :
    evaluatePostfix env strict (ps ++ more) = .error (.rejected (.missingOperand symbol)) := by
  rw [evaluatePostfix, Evaluation.run_append, run_of_evaluatePostfix h]
  rfl

/-- A strict evaluation rejects more than one expression. -/
theorem evaluatePostfix_forest_leftover {trees : List Expression} (h : 2 ≤ trees.length) :
    evaluatePostfix env true (forest trees) =
      .error (.rejected (.leftoverOperands trees.length)) := by
  rw [evaluatePostfix_forest]
  have hlength : (trees.reverse.map (Expression.value env)).length = trees.length := by simp
  match hstack : trees.reverse.map (Expression.value env) with
  | [] | [_] =>
    rw [hstack] at hlength
    simp at hlength
    omega
  | x :: y :: rest =>
    rw [hstack] at hlength
    rw [← hlength]
    rfl

theorem evaluatePostfix_forest_strict {trees : List Expression} {x : Float} :
    evaluatePostfix env true (forest trees) = .ok x ↔ ∃ e, trees = [e] ∧ e.value env = x := by
  rw [evaluatePostfix_forest, result_true_eq_ok, List.map_eq_singleton_iff]
  simp only [List.reverse_eq_iff, List.reverse_singleton]

theorem evaluatePostfix_forest_lenient {trees : List Expression} {x : Float} :
    evaluatePostfix env false (forest trees) = .ok x ↔
      ∃ before e, trees = before ++ [e] ∧ e.value env = x := by
  rw [evaluatePostfix_forest, result_false_eq_ok, List.head?_map, List.head?_reverse,
    Option.map_eq_some_iff]
  constructor
  · rintro ⟨e, hlast, hvalue⟩
    obtain ⟨before, rfl⟩ := List.getLast?_eq_some_iff.1 hlast
    exact ⟨before, e, rfl, hvalue⟩
  · rintro ⟨before, e, rfl, hvalue⟩
    exact ⟨e, List.getLast?_concat, hvalue⟩

theorem forest_of_evaluatePostfix {ps : List Token} {x : Float} (hps : Plain ps)
    (h : evaluatePostfix env strict ps = .ok x) : ∃ trees, forest trees = ps := by
  refine (exists_forest_iff hps env strict).2 fun symbol herror => ?_
  rw [h] at herror
  cases herror

/-- The evaluation of operands and operators misses no operand just if they are postfix
forms of expressions one after another.  These are then known, and as many as operands
outnumber operators.  A strict evaluation has a value if there is one expression, its own; a
lenient one if there is any, that of the last.  None is rejected as empty, and two or more
are too many for a strict evaluation.  An operator that misses an operand stops the
evaluation, whatever follows. -/
theorem postfix_language {ps : List Token} (hps : Plain ps) (env : Environment) :
    (∀ strict,
        (∀ symbol, evaluatePostfix env strict ps ≠ .error (.rejected (.missingOperand symbol))) ↔
          ∃ trees : List Expression, trees.flatMap Expression.postorder = ps) ∧
      (∀ trees trees' : List Expression, trees.flatMap Expression.postorder = ps →
        trees'.flatMap Expression.postorder = ps → trees = trees') ∧
      (∀ trees : List Expression, trees.flatMap Expression.postorder = ps →
        ps.countP Token.isOperand = ps.countP Token.isOperator + trees.length ∧
          (trees = [] →
            ∀ strict, evaluatePostfix env strict ps = .error (.rejected .emptyExpression)) ∧
          (2 ≤ trees.length →
            evaluatePostfix env true ps = .error (.rejected (.leftoverOperands trees.length)))) ∧
      (∀ x, evaluatePostfix env true ps = .ok x ↔
        ∃ e : Expression, e.postorder = ps ∧ e.value env = x) ∧
      (∀ x, evaluatePostfix env false ps = .ok x ↔
        ∃ (before : List Expression) (e : Expression),
          (before ++ [e]).flatMap Expression.postorder = ps ∧ e.value env = x) ∧
      ∀ strict symbol,
        evaluatePostfix env strict ps = .error (.rejected (.missingOperand symbol)) →
          ∀ more, evaluatePostfix env strict (ps ++ more) =
            .error (.rejected (.missingOperand symbol)) := by
  refine ⟨fun strict => (exists_forest_iff hps env strict).symm, ?_, ?_, ?_, ?_, ?_⟩
  · rintro trees trees' rfl h
    exact forest_injective h.symm
  · rintro trees rfl
    refine ⟨surplus_forest trees, ?_, evaluatePostfix_forest_leftover⟩
    rintro rfl strict
    rfl
  · intro x
    constructor
    · intro h
      obtain ⟨trees, rfl⟩ := forest_of_evaluatePostfix hps h
      obtain ⟨e, rfl, hvalue⟩ := evaluatePostfix_forest_strict.1 h
      exact ⟨e, (List.flatMap_singleton ..).symm, hvalue⟩
    · rintro ⟨e, rfl, rfl⟩
      exact evaluatePostfix_postorder env true e
  · intro x
    constructor
    · intro h
      obtain ⟨trees, rfl⟩ := forest_of_evaluatePostfix hps h
      obtain ⟨before, e, rfl, hvalue⟩ := evaluatePostfix_forest_lenient.1 h
      exact ⟨before, e, rfl, hvalue⟩
    · rintro ⟨before, e, rfl, hvalue⟩
      exact evaluatePostfix_forest_lenient.2 ⟨before, e, rfl, hvalue⟩
  · intro strict symbol h more
    exact evaluatePostfix_append h more

theorem postfix_language_two :
    Plain [.number ['8'] 8, .number ['2'] 2, .var ['x'], .operator ['-']] ∧
      evaluatePostfix ⟨[('x', 3)]⟩ false
        [.number ['8'] 8, .number ['2'] 2, .var ['x'], .operator ['-']] = .ok (-1) ∧
      evaluatePostfix ⟨[('x', 3)]⟩ true
        [.number ['8'] 8, .number ['2'] 2, .var ['x'], .operator ['-']] =
          .error (.rejected (.leftoverOperands 2)) := by
  have hplain : Plain [.number ['8'] 8, .number ['2'] 2, .var ['x'], .operator ['-']] := by
    unfold Plain
    decide
  obtain ⟨-, -, herrors, -, hlenient, -⟩ := postfix_language hplain ⟨[('x', 3)]⟩
  refine ⟨hplain, (hlenient _).2 ?_, ?_⟩
  · exact ⟨[.number ['8'] 8], .operation .sub (.number ['2'] 2) (.var ['x']), rfl, by decide +kernel⟩
  · exact (herrors [.number ['8'] 8, .operation .sub (.number ['2'] 2) (.var ['x'])] rfl).2.2
      (by decide)

end LineCalc
