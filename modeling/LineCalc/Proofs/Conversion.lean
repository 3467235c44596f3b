import LineCalc.Proofs.Balance
import LineCalc.Proofs.Conservation

/-!
# What the conversion to postfix does

The tokens of an expression keep the stack of a conversion in a simple shape: operators
with a rank and left parentheses wait, and nothing else (`Waits`).  For such a stack
`Transition` lists what one token can do to a conversion, and `transition_step` says that
`step` does it.  Everything else about a run is an induction over these five cases.

* The open parentheses are the left ones on the stack (`run_of_depth?_eq_some`), and a
  run fails just where a right parenthesis has no left one (`run_of_depth?_eq_none`).
* The conversion of a list with balanced parentheses succeeds (`exists_toPostfix`); any
  other list is rejected (`toPostfix_eq_unmatchedRight`, `toPostfix_eq_unclosedLeft`).

Nothing here asks where operands and operators stand.
-/

namespace LineCalc

namespace Conversion

def HasRank (rank : Nat) (t : Token) : Prop :=
  ∃ op : Operation, t = .operator op.symbol ∧ rank ≤ op.rank

/-- The stack gives nothing to an operator of the given rank: on its top is no operator,
or one of lower rank. -/
def Yields (rank : Nat) : List Token → Prop
  | .operator symbol :: _ => ∃ op : Operation, symbol = op.symbol ∧ op.rank < rank
  | _ => True

/-- The stack holds operators with a rank and left parentheses only. -/
def Waits (stack : List Token) : Prop :=
  ∀ t ∈ stack, HasRank 0 t ∨ t.isLeftParen = true

/-! ## Releasing operators -/

theorem release_operators {op : Operation} {ops : List Token}
    (hops : ∀ t ∈ ops, HasRank op.rank t) (emitted stack : List Token) :
    release op.symbol emitted (ops ++ stack) =
      release op.symbol (ops.reverse ++ emitted) stack := by
  induction ops generalizing emitted with
  | nil => rfl
  | cons t ops ih =>
    obtain ⟨top, rfl, hrank⟩ := hops t List.mem_cons_self
    have hstep : release op.symbol emitted (.operator top.symbol :: (ops ++ stack)) =
        release op.symbol (.operator top.symbol :: emitted) (ops ++ stack) := by
      rw [release, operatorRank, operatorRank, Operation.ofSymbol?_symbol,
        Operation.ofSymbol?_symbol]
      exact if_pos hrank
    rw [List.cons_append, hstep, ih fun t ht => hops t (List.mem_cons_of_mem _ ht)]
    simp

theorem release_of_yields {op : Operation} {stack : List Token} (h : Yields op.rank stack)
    (emitted : List Token) : release op.symbol emitted stack = .ok ⟨stack, emitted⟩ := by
  unfold release
  split
  · next symbol rest =>
    obtain ⟨top, rfl, hrank⟩ := h
    rw [operatorRank, operatorRank, Operation.ofSymbol?_symbol, Operation.ofSymbol?_symbol]
    exact if_neg (Nat.not_le.2 hrank)
  · rfl

theorem closeGroup_operators {ops : List Token} (hops : ∀ t ∈ ops, t.isLeftParen = false)
    (emitted stack : List Token) :
    closeGroup emitted (ops ++ stack) = closeGroup (ops.reverse ++ emitted) stack := by
  induction ops generalizing emitted with
  | nil => rfl
  | cons t ops ih =>
    have ht := hops t List.mem_cons_self
    have hstep : closeGroup emitted (t :: (ops ++ stack)) =
        closeGroup (t :: emitted) (ops ++ stack) := by
      cases t with
      | leftParen text => cases ht
      | _ => rfl
    rw [List.cons_append, hstep, ih fun t ht => hops t (List.mem_cons_of_mem _ ht)]
    simp

theorem releaseAll_operators {ops : List Token} (hops : ∀ t ∈ ops, t.isLeftParen = false)
    (emitted stack : List Token) :
    releaseAll emitted (ops ++ stack) = releaseAll (ops.reverse ++ emitted) stack := by
  induction ops generalizing emitted with
  | nil => rfl
  | cons t ops ih =>
    have ht := hops t List.mem_cons_self
    have hstep : releaseAll emitted (t :: (ops ++ stack)) =
        releaseAll (t :: emitted) (ops ++ stack) := by
      cases t with
      | leftParen text => cases ht
      | _ => rfl
    rw [List.cons_append, hstep, ih fun t ht => hops t (List.mem_cons_of_mem _ ht)]
    simp

/-- The operators that a waiting stack gives to an operator are those above the first one
that yields. -/
theorem exists_yields {stack : List Token} (hstack : Waits stack) (rank : Nat) :
    ∃ ops below, stack = ops ++ below ∧ (∀ t ∈ ops, HasRank rank t) ∧ Yields rank below := by
  induction stack with
  | nil => exact ⟨[], [], rfl, by simp, trivial⟩
  | cons t stack ih =>
    rcases hstack t List.mem_cons_self with ⟨op, rfl, -⟩ | hleft
    · by_cases hrank : rank ≤ op.rank
      · obtain ⟨ops, below, rfl, hops, hbelow⟩ :=
          ih fun t ht => hstack t (List.mem_cons_of_mem _ ht)
        refine ⟨.operator op.symbol :: ops, below, rfl, ?_, hbelow⟩
        simp only [List.forall_mem_cons]
        exact ⟨⟨op, rfl, hrank⟩, hops⟩
      · exact ⟨[], _, rfl, by simp, op, rfl, Nat.lt_of_not_le hrank⟩
    · cases t with
      | leftParen text => exact ⟨[], _, rfl, by simp, trivial⟩
      | _ => cases hleft

/-- A waiting stack is operators down to its first left parenthesis, if it has one. -/
theorem exists_leftParen {stack : List Token} (hstack : Waits stack) :
    (∀ t ∈ stack, HasRank 0 t) ∨
      ∃ ops text below, stack = ops ++ .leftParen text :: below ∧ ∀ t ∈ ops, HasRank 0 t := by
  induction stack with
  | nil => exact .inl (by simp)
  | cons t stack ih =>
    rcases hstack t List.mem_cons_self with hop | hleft
    · rcases ih fun t ht => hstack t (List.mem_cons_of_mem _ ht) with
        hops | ⟨ops, text, below, rfl, hops⟩
      · exact .inl (List.forall_mem_cons.2 ⟨hop, hops⟩)
      · exact .inr ⟨t :: ops, text, below, rfl, List.forall_mem_cons.2 ⟨hop, hops⟩⟩
    · cases t with
      | leftParen text => exact .inr ⟨[], text, stack, rfl, by simp⟩
      | _ => cases hleft

/-! ## What one token does -/

/-- What one token does to a conversion whose stack waits. -/
inductive Transition (s : Conversion) : Token → Except Fault Conversion → Prop where
  | operand {t : Token} (ht : t.isOperand = true) :
      Transition s t (.ok ⟨s.stack, t :: s.emitted⟩)
  | opens (text : Text) :
      Transition s (.leftParen text) (.ok ⟨.leftParen text :: s.stack, s.emitted⟩)
  /-- An operator releases those above the first that yields to it, and waits. -/
  | operator {op : Operation} {ops below : List Token} (hstack : s.stack = ops ++ below)
      (hops : ∀ t ∈ ops, HasRank op.rank t) (hbelow : Yields op.rank below) :
      Transition s (.operator op.symbol)
        (.ok ⟨.operator op.symbol :: below, ops.reverse ++ s.emitted⟩)
  /-- A right parenthesis releases the operators down to a left one. -/
  | closes {ops below : List Token} {left : Text} (text : Text)
      (hstack : s.stack = ops ++ .leftParen left :: below) (hops : ∀ t ∈ ops, HasRank 0 t) :
      Transition s (.rightParen text) (.ok ⟨below, ops.reverse ++ s.emitted⟩)
  | unmatched (text : Text) (hops : ∀ t ∈ s.stack, HasRank 0 t) :
      Transition s (.rightParen text) (.error (.rejected .unmatchedRight))

theorem HasRank.isLeftParen {rank : Nat} {t : Token} (h : HasRank rank t) :
    t.isLeftParen = false := by
  obtain ⟨op, rfl, -⟩ := h
  rfl

theorem HasRank.mono {rank lower : Nat} {t : Token} (h : HasRank rank t) (hle : lower ≤ rank) :
    HasRank lower t := by
  obtain ⟨op, rfl, hrank⟩ := h
  exact ⟨op, rfl, Nat.le_trans hle hrank⟩

/-- A token of an expression does to a conversion what `Transition` says. -/
theorem transition_step {s : Conversion} {t : Token} (hs : Waits s.stack)
    (ht : t.belongs = true) : Transition s t (s.step t) := by
  cases t with
  | number text value => exact .operand rfl
  | var name => exact .operand rfl
  | leftParen text => exact .opens text
  | foreign description => cases ht
  | operator symbol =>
    obtain ⟨op, hop⟩ := Token.exists_operation ht
    obtain rfl := Operation.symbol_of_ofSymbol? hop
    obtain ⟨ops, below, hstack, hops, hbelow⟩ := exists_yields hs op.rank
    have hstep : s.step (.operator op.symbol) =
        .ok ⟨.operator op.symbol :: below, ops.reverse ++ s.emitted⟩ := by
      rw [step, hstack, release_operators hops, release_of_yields hbelow]
      rfl
    rw [hstep]
    exact .operator hstack hops hbelow
  | rightParen text =>
    rcases exists_leftParen hs with hops | ⟨ops, left, below, hstack, hops⟩
    · have hstep : s.step (.rightParen text) = .error (.rejected .unmatchedRight) := by
        have hclose := closeGroup_operators (fun t ht => (hops t ht).isLeftParen) s.emitted []
        rw [List.append_nil] at hclose
        rw [step, hclose, closeGroup]
      rw [hstep]
      exact .unmatched text hops
    · have hstep : s.step (.rightParen text) = .ok ⟨below, ops.reverse ++ s.emitted⟩ := by
        rw [step, hstack, closeGroup_operators fun t ht => (hops t ht).isLeftParen, closeGroup]
      rw [hstep]
      exact .closes text hstack hops

theorem Transition.waits {s s' : Conversion} {t : Token} (h : Transition s t (.ok s'))
    (hs : Waits s.stack) : Waits s'.stack := by
  cases h with
  | operand ht => exact hs
  | opens text => exact List.forall_mem_cons.2 ⟨.inr rfl, hs⟩
  | @operator op ops below hstack hops hbelow =>
    rw [hstack] at hs
    exact List.forall_mem_cons.2 ⟨.inl ⟨op, rfl, Nat.zero_le _⟩, (List.forall_mem_append.1 hs).2⟩
  | closes text hstack hops =>
    rw [hstack] at hs
    exact (List.forall_mem_cons.1 (List.forall_mem_append.1 hs).2).2

/-- The open parentheses of a conversion: those that wait. -/
def opened (s : Conversion) : Nat :=
  s.stack.countP Token.isLeftParen

theorem countP_isLeftParen_eq_zero {rank : Nat} {ops : List Token}
    (hops : ∀ t ∈ ops, HasRank rank t) : ops.countP Token.isLeftParen = 0 := by
  rw [List.countP_eq_zero]
  intro t ht
  rw [(hops t ht).isLeftParen]
  simp

/-- One token opens or closes a parenthesis of a conversion as `depth?` says. -/
theorem Transition.depth?_eq {s : Conversion} {t : Token} {r : Except Fault Conversion}
    (h : Transition s t r) (rest : List Token) :
    (∃ s', r = .ok s' ∧ depth? s.opened (t :: rest) = depth? s'.opened rest) ∨
      (r = .error (.rejected .unmatchedRight) ∧ depth? s.opened (t :: rest) = none) := by
  cases h with
  | @operand t ht =>
    refine .inl ⟨_, rfl, ?_⟩
    cases t with
    | number text value => rfl
    | var name => rfl
    | _ => cases ht
  | opens text =>
    refine .inl ⟨_, rfl, ?_⟩
    rw [opened, opened, List.countP_cons]
    rfl
  | operator hstack hops hbelow =>
    refine .inl ⟨_, rfl, ?_⟩
    rw [opened, opened, hstack, List.countP_append, countP_isLeftParen_eq_zero hops,
      Nat.zero_add, List.countP_cons]
    rfl
  | closes text hstack hops =>
    refine .inl ⟨_, rfl, ?_⟩
    rw [opened, opened, hstack, List.countP_append, countP_isLeftParen_eq_zero hops,
      Nat.zero_add, List.countP_cons]
    rfl
  | unmatched text hops =>
    refine .inr ⟨rfl, ?_⟩
    rw [opened, countP_isLeftParen_eq_zero hops]
    rfl

/-! ## What a run does -/

/-- A run over tokens with balanced parentheses, some of them left open, goes through. -/
theorem run_of_depth?_eq_some {s : Conversion} {ts : List Token} {d : Nat} (hs : Waits s.stack)
    (hts : ∀ t ∈ ts, t.belongs = true) (hd : depth? s.opened ts = some d) :
    ∃ s', s.run ts = .ok s' ∧ Waits s'.stack ∧ s'.opened = d := by
  induction ts generalizing s with
  | nil => exact ⟨s, rfl, hs, Option.some.inj hd⟩
  | cons t ts ih =>
    obtain ⟨ht, hts⟩ := List.forall_mem_cons.1 hts
    have hstep := transition_step hs ht
    rcases hstep.depth?_eq ts with ⟨s', hs', hdepth⟩ | ⟨-, hdepth⟩
    · rw [hs'] at hstep
      rw [run_cons hs']
      exact ih (hstep.waits hs) hts (hdepth ▸ hd)
    · rw [hdepth] at hd
      cases hd

theorem run_of_depth?_eq_none {s : Conversion} {ts : List Token} (hs : Waits s.stack)
    (hts : ∀ t ∈ ts, t.belongs = true) (hd : depth? s.opened ts = none) :
    s.run ts = .error (.rejected .unmatchedRight) := by
  induction ts generalizing s with
  | nil => cases hd
  | cons t ts ih =>
    obtain ⟨ht, hts⟩ := List.forall_mem_cons.1 hts
    have hstep := transition_step hs ht
    rcases hstep.depth?_eq ts with ⟨s', hs', hdepth⟩ | ⟨herror, -⟩
    · rw [hs'] at hstep
      rw [run_cons hs']
      exact ih (hstep.waits hs) hts (hdepth ▸ hd)
    · rw [run, List.foldlM_cons, herror]
      rfl

theorem waits_start : Waits start.stack := by
  simp [Waits, start]

/-! ## The end of a run -/

theorem finish_eq_ok {s : Conversion} (hs : ∀ t ∈ s.stack, t.isLeftParen = false) :
    s.finish = .ok (s.emitted.reverse ++ s.stack) := by
  have hrelease := releaseAll_operators hs s.emitted []
  rw [List.append_nil] at hrelease
  rw [finish, hrelease, releaseAll, Except.map, List.reverse_append, List.reverse_reverse]

theorem finish_eq_unclosedLeft {s : Conversion} (hs : Waits s.stack) (hopened : 0 < s.opened) :
    s.finish = .error (.rejected .unclosedLeft) := by
  rcases exists_leftParen hs with hops | ⟨ops, text, below, hstack, hops⟩
  · rw [opened, countP_isLeftParen_eq_zero hops] at hopened
    cases hopened
  · rw [finish, hstack, releaseAll_operators fun t ht => (hops t ht).isLeftParen, releaseAll]
    rfl

end Conversion

open Conversion

variable {ts : List Token}

/-- Tokens with balanced parentheses are converted. -/
theorem exists_toPostfix (hts : ∀ t ∈ ts, t.belongs = true) (hd : depth? 0 ts = some 0) :
    ∃ ps, toPostfix ts = .ok ps := by
  obtain ⟨s, hrun, -, hopened⟩ := run_of_depth?_eq_some waits_start hts hd
  have hleft : ∀ t ∈ s.stack, t.isLeftParen = false := by
    rw [opened, List.countP_eq_zero] at hopened
    simpa using hopened
  exact ⟨_, (toPostfix_of_run hrun).trans (finish_eq_ok hleft)⟩

theorem toPostfix_eq_unmatchedRight (hts : ∀ t ∈ ts, t.belongs = true)
    (hd : depth? 0 ts = none) : toPostfix ts = .error (.rejected .unmatchedRight) := by
  rw [toPostfix, run_of_depth?_eq_none waits_start hts hd]
  rfl

theorem toPostfix_eq_unclosedLeft (hts : ∀ t ∈ ts, t.belongs = true) {d : Nat}
    (hd : depth? 0 ts = some (d + 1)) : toPostfix ts = .error (.rejected .unclosedLeft) := by
  obtain ⟨s, hrun, hs, hopened⟩ := run_of_depth?_eq_some waits_start hts hd
  rw [toPostfix_of_run hrun, finish_eq_unclosedLeft hs (by omega)]

/-- Only tokens with balanced parentheses are converted. -/
theorem depth?_of_toPostfix {ps : List Token} (hts : ∀ t ∈ ts, t.belongs = true)
    (h : toPostfix ts = .ok ps) : depth? 0 ts = some 0 := by
  cases hd : depth? 0 ts with
  | none =>
    rw [toPostfix_eq_unmatchedRight hts hd] at h
    cases h
  | some d =>
    cases d with
    | zero => rfl
    | succ d =>
      rw [toPostfix_eq_unclosedLeft hts hd] at h
      cases h

/-- Whether tokens are converted, and why not, is decided by their parentheses.  They are
converted if these are balanced.  Otherwise they are rejected for a right parenthesis without
a left one if some beginning closes more than it opens, and for a left parenthesis that stays
open in all other cases.  Operands and operators make no difference, wherever they stand. -/
theorem toPostfix_by_parens (hts : ∀ t ∈ ts, t.belongs = true) :
    ((∃ ps, toPostfix ts = .ok ps) ↔ Balanced ts) ∧
      (toPostfix ts = .error (.rejected .unmatchedRight) ↔ ClosesEarly ts) ∧
      (toPostfix ts = .error (.rejected .unclosedLeft) ↔ ¬ Balanced ts ∧ ¬ ClosesEarly ts) ∧
      Rejection.unmatchedRight.report =
        ⟨.badParenthesis, "Right parenthesis without a matching left parenthesis", none⟩ ∧
      Rejection.unclosedLeft.report = ⟨.badParenthesis, "Unclosed left parenthesis", none⟩ ∧
      (toPostfix ts).map (fun _ => ()) =
        (toPostfix (ts.filter Token.isParen)).map (fun _ => ()) := by
  have hparens : ∀ t ∈ ts.filter Token.isParen, t.belongs = true :=
    fun t ht => hts t (List.mem_of_mem_filter ht)
  have hdepth := depth?_filter_isParen 0 ts
  rw [balanced_iff, closesEarly_iff]
  cases hd : depth? 0 ts with
  | none =>
    rw [hd] at hdepth
    rw [toPostfix_eq_unmatchedRight hts hd, toPostfix_eq_unmatchedRight hparens hdepth]
    exact ⟨by simp, by simp, by simp, rfl, rfl, rfl⟩
  | some d =>
    rw [hd] at hdepth
    cases d with
    | zero =>
      obtain ⟨ps, hps⟩ := exists_toPostfix hts hd
      obtain ⟨parens, hnone⟩ := exists_toPostfix hparens hdepth
      rw [hps, hnone]
      exact ⟨by simp, by simp, by simp, rfl, rfl, rfl⟩
    | succ d =>
      rw [toPostfix_eq_unclosedLeft hts hd, toPostfix_eq_unclosedLeft hparens hdepth]
      exact ⟨by simp, by simp, by simp, rfl, rfl, rfl⟩

/-- As many right parentheses as left ones in the wrong order, and misplaced operators that
do no harm. -/
theorem toPostfix_by_parens_order :
    let turned := [.rightParen [')'], .operator ['+'], .leftParen ['(']]
    let misplaced := [.leftParen ['('], .operator ['*'], .rightParen [')'], .var ['a'], .var ['b']]
    (∀ t ∈ turned, t.belongs = true) ∧ (∀ t ∈ misplaced, t.belongs = true) ∧
      turned.countP Token.isLeftParen = turned.countP Token.isRightParen ∧
      ClosesEarly turned ∧ toPostfix turned = .error (.rejected .unmatchedRight) ∧
      Balanced misplaced ∧ ∃ ps, toPostfix misplaced = .ok ps := by
  intro turned misplaced
  have hturned : ∀ t ∈ turned, t.belongs = true := by decide
  have hmisplaced : ∀ t ∈ misplaced, t.belongs = true := by decide
  have hearly : ClosesEarly turned := ⟨[.rightParen [')']], by decide, by decide⟩
  have hbalanced : Balanced misplaced := balanced_iff.2 rfl
  obtain ⟨-, hunmatched, -⟩ := toPostfix_by_parens hturned
  obtain ⟨hconverted, -⟩ := toPostfix_by_parens hmisplaced
  exact ⟨hturned, hmisplaced, rfl, hearly, hunmatched.2 hearly, hbalanced,
    hconverted.2 hbalanced⟩

end LineCalc
