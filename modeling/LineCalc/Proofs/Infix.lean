import LineCalc.Expression
import LineCalc.Proofs.Conversion

/-!
# Infix forms and their conversion

Two facts about the tokens of an infix form.

* The conversion reads them as the postfix form of their expression.  `ReadsAs` says this
  of any conversion under way: whatever waits below, the operators that are added to the
  stack are those of the form that have not been released, and releasing them gives the
  postfix form.  A form of a level needs a stack that yields to the operators of that
  level.  `Infix.toPostfix_eq` is the case of an empty stack.
* They are the lists of tokens with balanced parentheses in which operands and operators
  take turns (`exists_infix_iff`).  `alternates` is the turn-taking.  In the direction
  from the tokens to the form, `Enclosing` describes what has been read and is not yet
  closed: for every open parenthesis a sum and a product that have been begun.
-/

namespace LineCalc

open Conversion

/-- The least rank of the operators that join the parts of a form at a level. -/
def Level.rank : Level → Nat
  | .sum => 0
  | .product => 1
  | .factor => 2

/-! ## Reading an infix form -/

/-- The tokens are read as the expression, on top of any stack that yields to `rank`. -/
def ReadsAs (rank : Nat) (ts : List Token) (e : Expression) : Prop :=
  ∀ (stack emitted : List Token), Yields rank stack →
    ∃ ops emitted', run ⟨stack, emitted⟩ ts = .ok ⟨ops ++ stack, emitted'⟩ ∧
      (∀ t ∈ ops, HasRank rank t) ∧ ops.reverse ++ emitted' = e.postorder.reverse ++ emitted

namespace ReadsAs

variable {rank : Nat} {ts us : List Token} {e f : Expression}

theorem operand {t : Token} (ht : t.isOperand = true) (he : e.postorder = [t]) :
    ReadsAs rank [t] e := by
  intro stack emitted _
  have hstep : step ⟨stack, emitted⟩ t = .ok ⟨stack, t :: emitted⟩ := by
    cases t with
    | number text value => rfl
    | var name => rfl
    | _ => cases ht
  refine ⟨[], t :: emitted, run_cons hstep [], by simp, ?_⟩
  rw [he]
  rfl

theorem mono (h : ReadsAs (rank + 1) ts e) : ReadsAs rank ts e := by
  intro stack emitted hstack
  have hyields : Yields (rank + 1) stack := by
    cases stack with
    | nil => trivial
    | cons t stack =>
      cases t with
      | operator symbol =>
        obtain ⟨op, hop, hrank⟩ := hstack
        exact ⟨op, hop, Nat.lt_succ_of_lt hrank⟩
      | _ => trivial
  obtain ⟨ops, emitted', hrun, hops, hpost⟩ := h stack emitted hyields
  exact ⟨ops, emitted', hrun, fun t ht => (hops t ht).mono (Nat.le_succ rank), hpost⟩

/-- A right parenthesis releases what the group has added to the stack. -/
theorem group (h : ReadsAs 0 ts e) (left right : Text) :
    ReadsAs rank (.leftParen left :: ts ++ [.rightParen right]) e := by
  intro stack emitted _
  obtain ⟨ops, emitted', hrun, hops, hpost⟩ := h (.leftParen left :: stack) emitted trivial
  have hclose : step ⟨ops ++ .leftParen left :: stack, emitted'⟩ (.rightParen right) =
      .ok ⟨stack, ops.reverse ++ emitted'⟩ := by
    rw [step, closeGroup_operators fun t ht => (hops t ht).isLeftParen, closeGroup]
  have hopen : step ⟨stack, emitted⟩ (.leftParen left) =
      .ok ⟨.leftParen left :: stack, emitted⟩ := rfl
  refine ⟨[], ops.reverse ++ emitted', ?_, by simp, hpost⟩
  rw [List.cons_append, run_cons hopen, run_append hrun, run_cons hclose]
  rfl

/-- An operator releases its left operand and waits below its right operand. -/
theorem operation {op : Operation} (hop : op.rank = rank) (hleft : ReadsAs rank ts e)
    (hright : ReadsAs (rank + 1) us f) :
    ReadsAs rank (ts ++ .operator op.symbol :: us) (.operation op e f) := by
  intro stack emitted hstack
  subst hop
  obtain ⟨ops, emitted', hrun, hops, hpost⟩ := hleft stack emitted hstack
  have hstep : step ⟨ops ++ stack, emitted'⟩ (.operator op.symbol) =
      .ok ⟨.operator op.symbol :: stack, ops.reverse ++ emitted'⟩ := by
    rw [step, release_operators hops, release_of_yields hstack]
    rfl
  obtain ⟨ops', emitted'', hrun', hops', hpost'⟩ :=
    hright (.operator op.symbol :: stack) (ops.reverse ++ emitted')
      ⟨op, rfl, Nat.lt_succ_self op.rank⟩
  refine ⟨ops' ++ [.operator op.symbol], emitted'', ?_, ?_, ?_⟩
  · rw [run_append hrun, run_cons hstep, hrun', List.append_assoc]
    rfl
  · refine List.forall_mem_append.2 ⟨fun t ht => (hops' t ht).mono (Nat.le_succ _), ?_⟩
    rw [List.forall_mem_singleton]
    exact ⟨op, rfl, Nat.le_refl _⟩
  · rw [List.reverse_append, List.append_assoc, hpost', hpost, Expression.postorder]
    simp

end ReadsAs

/-- An infix form is read as its expression on any stack that yields to its level. -/
theorem Infix.readsAs {level : Level} {ts : List Token} {e : Expression}
    (h : Infix level ts e) : ReadsAs level.rank ts e := by
  induction h with
  | number text value => exact .operand rfl rfl
  | var name => exact .operand rfl rfl
  | group left right _ ih => exact ih.group left right
  | ofFactor _ ih => exact ih.mono
  | ofProduct _ ih => exact ih.mono
  | product hop _ _ ihleft ihright => exact .operation hop ihleft ihright
  | sum hop _ _ ihleft ihright => exact .operation hop ihleft ihright

theorem Infix.toPostfix_eq {ts : List Token} {e : Expression} (h : Infix .sum ts e) :
    toPostfix ts = .ok e.postorder := by
  obtain ⟨ops, emitted, hrun, hops, hpost⟩ := Infix.readsAs h [] [] trivial
  rw [List.append_nil] at hrun hpost
  rw [toPostfix_of_run hrun, finish_eq_ok fun t ht => (hops t ht).isLeftParen]
  rw [← List.reverse_reverse ops, ← List.reverse_append, hpost, List.reverse_reverse]

/-! ## Turn-taking -/

/-- Whether operands and operators take turns in the tokens.  A group counts as an
operand, and `expected` says whether an operand comes next. -/
def alternates (expected : Bool) : List Token → Bool
  | [] => !expected
  | .number _ _ :: rest => expected && alternates false rest
  | .var _ :: rest => expected && alternates false rest
  | .leftParen _ :: rest => expected && alternates true rest
  | .operator _ :: rest => !expected && alternates true rest
  | .rightParen _ :: rest => !expected && alternates false rest
  | .foreign _ :: _ => false

/-- An infix form stands where an operand is expected, and an operator may follow it. -/
theorem Infix.alternates_append {level : Level} {ts : List Token} {e : Expression}
    (h : Infix level ts e) (rest : List Token) :
    alternates true (ts ++ rest) = alternates false rest := by
  induction h generalizing rest with
  | number text value => rfl
  | var name => rfl
  | group left right _ ih =>
    rw [List.append_assoc, List.cons_append, alternates, Bool.true_and, ih]
    rfl
  | ofFactor _ ih => exact ih rest
  | ofProduct _ ih => exact ih rest
  | product hop _ _ ihleft ihright =>
    rw [List.append_assoc, ihleft, List.cons_append, alternates, ihright]
    rfl
  | sum hop _ _ ihleft ihright =>
    rw [List.append_assoc, ihleft, List.cons_append, alternates, ihright]
    rfl

/-! ## From turn-taking to an infix form -/

/-- A form at a level that has been begun: nothing, or a form and an operator. -/
inductive Begun (level : Level) : List Token → Prop where
  | nothing : Begun level []
  | operation {op : Operation} {ts : List Token} {e : Expression} (hop : op.rank = level.rank)
      (h : Infix level ts e) : Begun level (ts ++ [.operator op.symbol])

/-- What has been read before the innermost open parenthesis, and this parenthesis, when
`depth` parentheses are open. -/
inductive Enclosing : Nat → List Token → Prop where
  | nothing : Enclosing 0 []
  | group {depth : Nat} {outer sum product : List Token} (h : Enclosing depth outer)
      (hsum : Begun .sum sum) (hproduct : Begun .product product) (text : Text) :
      Enclosing (depth + 1) (outer ++ sum ++ product ++ [.leftParen text])

def Expecting (depth : Nat) (read : List Token) : Prop :=
  ∃ outer sum product, Enclosing depth outer ∧ Begun .sum sum ∧ Begun .product product ∧
    read = outer ++ sum ++ product

def Complete (depth : Nat) (read : List Token) : Prop :=
  ∃ outer sum product e, Enclosing depth outer ∧ Begun .sum sum ∧ Infix .product product e ∧
    read = outer ++ sum ++ product

theorem Begun.sum {ts us : List Token} {f : Expression} (h : Begun .sum ts)
    (hright : Infix .product us f) : ∃ e, Infix .sum (ts ++ us) e := by
  cases h with
  | nothing => exact ⟨f, .ofProduct hright⟩
  | @operation op ts e hop h =>
    rw [List.append_assoc]
    exact ⟨_, .sum hop h hright⟩

theorem Begun.product {ts us : List Token} {f : Expression} (h : Begun .product ts)
    (hright : Infix .factor us f) : ∃ e, Infix .product (ts ++ us) e := by
  cases h with
  | nothing => exact ⟨f, .ofFactor hright⟩
  | @operation op ts e hop h =>
    rw [List.append_assoc]
    exact ⟨_, .product hop h hright⟩

variable {depth : Nat} {read : List Token}

theorem Expecting.factor {us : List Token} {f : Expression} (h : Expecting depth read)
    (hright : Infix .factor us f) : Complete depth (read ++ us) := by
  obtain ⟨outer, sum, product, houter, hsum, hproduct, rfl⟩ := h
  obtain ⟨e, he⟩ := hproduct.product hright
  exact ⟨outer, sum, product ++ us, e, houter, hsum, he, by simp⟩

theorem Expecting.opens (h : Expecting depth read) (text : Text) :
    Expecting (depth + 1) (read ++ [.leftParen text]) := by
  obtain ⟨outer, sum, product, houter, hsum, hproduct, rfl⟩ := h
  exact ⟨_, [], [], houter.group hsum hproduct text, .nothing, .nothing, by simp⟩

theorem Complete.operator (h : Complete depth read) (op : Operation) :
    Expecting depth (read ++ [.operator op.symbol]) := by
  obtain ⟨outer, sum, product, e, houter, hsum, hproduct, rfl⟩ := h
  by_cases hop : op.rank = 1
  · exact ⟨outer, sum, _, houter, hsum, .operation hop hproduct, by simp⟩
  · have hop : op.rank = 0 := by cases op <;> simp_all [Operation.rank]
    obtain ⟨e, he⟩ := hsum.sum hproduct
    exact ⟨outer, _, [], houter, .operation hop he, .nothing, by simp⟩

theorem Complete.closes (h : Complete (depth + 1) read) (text : Text) :
    Complete depth (read ++ [.rightParen text]) := by
  obtain ⟨outer, sum, product, e, houter, hsum, hproduct, rfl⟩ := h
  obtain ⟨e, he⟩ := hsum.sum hproduct
  cases houter with
  | @group _ outer' sum' product' houter' hsum' hproduct' left =>
    obtain ⟨f, hf⟩ := hproduct'.product (.group left text he)
    exact ⟨outer', sum', _, f, houter', hsum', hf, by simp⟩

/-- Tokens that take turns and close what is open complete a sum. -/
theorem infix_of_alternates {rest : List Token} (hrest : ∀ t ∈ rest, t.belongs = true)
    (hdepth : depth? depth rest = some 0) :
    (alternates true rest = true → Expecting depth read → ∃ e, Infix .sum (read ++ rest) e) ∧
      (alternates false rest = true → Complete depth read →
        ∃ e, Infix .sum (read ++ rest) e) := by
  -- Each token turns one of the two states into the other, so both go together.
  induction rest generalizing depth read with
  | nil =>
    refine ⟨fun h => (by cases h), fun _ h => ?_⟩
    obtain rfl : depth = 0 := Option.some.inj hdepth
    obtain ⟨outer, sum, product, e, houter, hsum, hproduct, rfl⟩ := h
    cases houter
    simpa using hsum.sum hproduct
  | cons t rest ih =>
    obtain ⟨ht, htail⟩ := List.forall_mem_cons.1 hrest
    rw [List.append_cons]
    cases t with
    | number text value =>
      refine ⟨fun h hread => ?_, fun h => (by cases h)⟩
      exact (ih htail hdepth).2 h (hread.factor (.number text value))
    | var name =>
      refine ⟨fun h hread => ?_, fun h => (by cases h)⟩
      exact (ih htail hdepth).2 h (hread.factor (.var name))
    | leftParen text =>
      refine ⟨fun h hread => ?_, fun h => (by cases h)⟩
      exact (ih htail hdepth).1 h (hread.opens text)
    | operator symbol =>
      refine ⟨fun h => (by cases h), fun h hread => ?_⟩
      obtain ⟨op, hop⟩ := Token.exists_operation ht
      obtain rfl := Operation.symbol_of_ofSymbol? hop
      exact (ih htail hdepth).1 h (hread.operator op)
    | rightParen text =>
      refine ⟨fun h => (by cases h), fun h hread => ?_⟩
      cases depth with
      | zero => cases hdepth
      | succ depth => exact (ih htail hdepth).2 h (hread.closes text)
    | foreign description => cases ht

/-- Infix forms are the tokens with balanced parentheses in which operands and operators
take turns. -/
theorem exists_infix_iff {ts : List Token} (hts : ∀ t ∈ ts, t.belongs = true) :
    (∃ e, Infix .sum ts e) ↔ depth? 0 ts = some 0 ∧ alternates true ts = true := by
  constructor
  · rintro ⟨e, he⟩
    have hturns := Infix.alternates_append he []
    rw [List.append_nil] at hturns
    exact ⟨depth?_of_toPostfix hts (Infix.toPostfix_eq he), hturns⟩
  · rintro ⟨hdepth, hturns⟩
    have hstart : Expecting 0 [] := ⟨[], [], [], .nothing, .nothing, .nothing, rfl⟩
    exact (infix_of_alternates hts hdepth).1 hturns hstart

end LineCalc
