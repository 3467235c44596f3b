import LineCalc.Proofs.Conversion

/-!
# How much waits in a conversion

The waiting operators stand in layers, one above each open parenthesis and one below them
all.  In a layer the ranks go down from the top of the stack to the bottom, so a layer has no
more operators than there are ranks.

* `Layered` is the invariant: every operator on the stack lies on something that yields to
  it.  It is a condition on neighbours, so whatever lies below on a layered stack is layered
  too (`Layered.of_append`).  This is what a right parenthesis leaves, and an operator is put
  on what has yielded to it (`Transition.layered`).
* `Layered.exists_descending` says what this means for a whole layer.
* `Layered.length_le` bounds the stack by the open parentheses, and `exists_stack_full` says
  that no lower bound will do.
-/

namespace LineCalc

namespace Operation

theorem symbol_injective {op other : Operation} (h : op.symbol = other.symbol) : op = other := by
  have hsome : ofSymbol? op.symbol = ofSymbol? other.symbol := congrArg ofSymbol? h
  rw [ofSymbol?_symbol, ofSymbol?_symbol] at hsome
  exact Option.some.inj hsome

theorem rank_lt (op : Operation) : op.rank < 2 := by
  cases op <;> decide

/-- Operations of descending rank are no more than there are ranks. -/
theorem length_le_of_descending {ops : List Operation} {bound : Nat}
    (hops : ops.Pairwise fun upper lower => lower.rank < upper.rank)
    (hbound : ∀ op ∈ ops, op.rank < bound) : ops.length ≤ bound := by
  induction ops generalizing bound with
  | nil => exact Nat.zero_le _
  | cons op ops ih =>
    obtain ⟨hlower, hops⟩ := List.pairwise_cons.1 hops
    have hlength : ops.length ≤ op.rank := ih hops hlower
    have hrank : op.rank < bound := hbound op List.mem_cons_self
    rw [List.length_cons]
    omega

end Operation

namespace Conversion

theorem yields_operator {rank : Nat} {op : Operation} {below : List Token} :
    Yields rank (.operator op.symbol :: below) ↔ op.rank < rank := by
  constructor
  · rintro ⟨other, hsymbol, hrank⟩
    rw [Operation.symbol_injective hsymbol]
    exact hrank
  · intro hrank
    exact ⟨op, rfl, hrank⟩

/-- The stack holds operators and left parentheses, and every operator lies on something
that yields to it. -/
inductive Layered : List Token → Prop where
  | bottom : Layered []
  | opens (text : Text) {below : List Token} (h : Layered below) :
      Layered (.leftParen text :: below)
  | operator {op : Operation} {below : List Token} (hbelow : Yields op.rank below)
      (h : Layered below) : Layered (.operator op.symbol :: below)

namespace Layered

variable {stack : List Token}

theorem waits (h : Layered stack) : Waits stack := by
  induction h with
  | bottom => exact List.forall_mem_nil _
  | opens text h ih => exact List.forall_mem_cons.2 ⟨.inr rfl, ih⟩
  | @operator op below hbelow h ih =>
    exact List.forall_mem_cons.2 ⟨.inl ⟨op, rfl, Nat.zero_le _⟩, ih⟩

/-- What lies below is layered, wherever the stack is cut. -/
theorem of_append {above below : List Token} (h : Layered (above ++ below)) : Layered below := by
  induction above with
  | nil => exact h
  | cons t above ih =>
    rw [List.cons_append] at h
    cases h with
    | opens text h => exact ih h
    | operator hbelow h => exact ih h

/-- Above all ranks everything yields. -/
theorem yields_two (h : Layered stack) : Yields 2 stack := by
  cases h with
  | bottom => trivial
  | opens text h => trivial
  | @operator op below hbelow h => exact yields_operator.2 op.rank_lt

/-- Tokens that stand together on the stack without a parenthesis among them are operators
whose ranks go down from the top. -/
theorem exists_descending {layer below : List Token} (h : Layered (layer ++ below))
    (hlayer : ∀ t ∈ layer, t.isLeftParen = false) :
    ∃ ops : List Operation, layer = ops.map (fun op => .operator op.symbol) ∧
      ops.Pairwise fun upper lower => lower.rank < upper.rank := by
  induction layer with
  | nil => exact ⟨[], rfl, .nil⟩
  | cons t layer ih =>
    obtain ⟨ht, hrest⟩ := List.forall_mem_cons.1 hlayer
    rw [List.cons_append] at h
    cases h with
    | opens text h => cases ht
    | @operator op _ hbelow h =>
      obtain ⟨ops, rfl, hops⟩ := ih h hrest
      refine ⟨op :: ops, rfl, List.pairwise_cons.2 ⟨?_, hops⟩⟩
      -- The next operator has a lower rank, and all others a still lower one.
      cases ops with
      | nil => exact List.forall_mem_nil _
      | cons next ops =>
        have hnext : next.rank < op.rank := yields_operator.1 hbelow
        refine List.forall_mem_cons.2 ⟨hnext, fun lower hlower => ?_⟩
        exact Nat.lt_trans ((List.pairwise_cons.1 hops).1 lower hlower) hnext

/-- A stack that yields to a rank has three tokens for each open parenthesis, and above the
last one no more operators than there are lower ranks. -/
theorem length_le (h : Layered stack) {rank : Nat} (hrank : Yields rank stack) :
    stack.length ≤ 3 * stack.countP Token.isLeftParen + rank := by
  induction h generalizing rank with
  | bottom => exact Nat.zero_le _
  | opens text h ih =>
    -- The parenthesis is the third token: what lies below it has no more than two of its own.
    have hbelow := ih h.yields_two
    rw [List.length_cons, List.countP_cons_of_pos rfl]
    omega
  | @operator op below hyields h ih =>
    have hbelow := ih hyields
    have hlower : op.rank < rank := yields_operator.1 hrank
    rw [List.length_cons, List.countP_cons_of_neg (by simp [Token.isLeftParen])]
    omega

end Layered

/-! ## What a run keeps -/

/-- One token keeps the layers. -/
theorem Transition.layered {s s' : Conversion} {t : Token} (h : Transition s t (.ok s'))
    (hs : Layered s.stack) : Layered s'.stack := by
  cases h with
  | operand ht => exact hs
  | opens text => exact .opens text hs
  | operator hstack hops hbelow =>
    rw [hstack] at hs
    exact .operator hbelow hs.of_append
  | closes text hstack hops =>
    rw [hstack, List.append_cons] at hs
    exact hs.of_append

/-- Whatever has been read, the stack is layered. -/
theorem layered_of_run {ts : List Token} {s : Conversion} (hts : ∀ t ∈ ts, t.belongs = true)
    (h : start.run ts = .ok s) : Layered s.stack := by
  refine run_induction (fun _ s => Layered s.stack) ?_ [] .bottom h
  intro read t s s' ht hstep hs
  have htransition := transition_step hs.waits (hts t ht)
  rw [hstep] at htransition
  exact htransition.layered hs

/-- Tokens are read to the end unless some beginning of them closes more than it opens. -/
theorem exists_run_iff {ts : List Token} (hts : ∀ t ∈ ts, t.belongs = true) :
    (∃ s, start.run ts = .ok s) ↔ ¬ ClosesEarly ts := by
  rw [closesEarly_iff]
  cases hd : depth? 0 ts with
  | none => simp [run_of_depth?_eq_none waits_start hts hd]
  | some d =>
    obtain ⟨s, hrun, -, -⟩ := run_of_depth?_eq_some waits_start hts hd
    simp [hrun]

/-- The left parentheses that wait are those read less the right ones. -/
theorem opened_of_run {ts : List Token} {s : Conversion} (hts : ∀ t ∈ ts, t.belongs = true)
    (h : start.run ts = .ok s) :
    s.opened + ts.countP Token.isRightParen = ts.countP Token.isLeftParen := by
  cases hd : depth? 0 ts with
  | none =>
    have herror := run_of_depth?_eq_none waits_start hts hd
    rw [h] at herror
    cases herror
  | some d =>
    obtain ⟨s', hrun, -, hopened⟩ := run_of_depth?_eq_some waits_start hts hd
    rw [h] at hrun
    cases hrun
    have hcount := depth?_eq_some hd
    omega

/-- The stack of a conversion, whatever tokens it is given and however far it has read them.
The tokens are read as long as no right parenthesis is without a left one.  The left
parentheses on the stack are then the left ones read less the right ones.  Tokens that stand
together on the stack without a left parenthesis among them are operators whose ranks go down
strictly from the top, two at most.  So the stack has no more than three tokens for each open
parenthesis and two besides. -/
theorem stack_bounded {ts : List Token} (hts : ∀ t ∈ ts, t.belongs = true) {read : List Token}
    (hread : read <+: ts) :
    ((∃ s, start.run read = .ok s) ↔ ¬ ClosesEarly read) ∧
      ∀ s, start.run read = .ok s →
        s.opened + read.countP Token.isRightParen = read.countP Token.isLeftParen ∧
        (∀ layer, layer <:+: s.stack → (∀ t ∈ layer, t.isLeftParen = false) →
          ∃ ops : List Operation, layer = ops.map (fun op => .operator op.symbol) ∧
            ops.Pairwise (fun upper lower => lower.rank < upper.rank) ∧ ops.length ≤ 2) ∧
        s.stack.length ≤ 3 * s.opened + 2 := by
  have hbelongs : ∀ t ∈ read, t.belongs = true := fun t ht => hts t (hread.subset ht)
  refine ⟨exists_run_iff hbelongs, fun s hrun => ?_⟩
  have hlayered : Layered s.stack := layered_of_run hbelongs hrun
  refine ⟨opened_of_run hbelongs hrun, ?_, hlayered.length_le hlayered.yields_two⟩
  rintro layer ⟨above, below, hstack⟩ hlayer
  rw [← hstack, List.append_assoc] at hlayered
  obtain ⟨ops, hops, hdescending⟩ := hlayered.of_append.exists_descending hlayer
  exact ⟨ops, hops, hdescending,
    Operation.length_le_of_descending hdescending fun op _ => op.rank_lt⟩

/-- Two full layers.  The upper one is on top again after a third above it has been closed, and
what is read later is rejected. -/
theorem stack_bounded_rejoined :
    let read := [.var ['a'], .operator ['+'], .var ['b'], .operator ['*'], .leftParen ['('],
      .var ['c'], .operator ['-'], .var ['d'], .operator ['/'], .leftParen ['('],
      .operator ['+'], .var ['e'], .rightParen [')']]
    let ts := read ++ [.rightParen [')'], .rightParen [')']]
    let upper := [.operator ['/'], .operator ['-']]
    let lower := [.operator ['*'], .operator ['+']]
    (∀ t ∈ ts, t.belongs = true) ∧ read <+: ts ∧ ClosesEarly ts ∧
      ∃ s, start.run read = .ok s ∧ s.stack = upper ++ .leftParen ['('] :: lower ∧
        s.opened = 1 ∧ s.stack.length = 3 * s.opened + 2 ∧
        s.opened + read.countP Token.isRightParen = read.countP Token.isLeftParen ∧
        (∀ layer, layer <:+: s.stack → (∀ t ∈ layer, t.isLeftParen = false) →
          ∃ ops : List Operation, layer = ops.map (fun op => .operator op.symbol) ∧
            ops.Pairwise (fun upper lower => lower.rank < upper.rank) ∧ ops.length ≤ 2) := by
  intro read ts upper lower
  have hts : ∀ t ∈ ts, t.belongs = true := by decide
  have hread : read <+: ts := List.prefix_append read _
  have hearly : ClosesEarly ts := ⟨ts, List.prefix_rfl, by decide⟩
  have hrun : start.run read = .ok ⟨upper ++ .leftParen ['('] :: lower,
      [.operator ['+'], .var ['e'], .var ['d'], .var ['c'], .var ['b'], .var ['a']]⟩ := rfl
  obtain ⟨-, hall⟩ := stack_bounded hts hread
  obtain ⟨hopened, hlayers, -⟩ := hall _ hrun
  exact ⟨hts, hread, hearly, _, hrun, rfl, rfl, rfl, hopened, hlayers⟩

theorem run_full_layer (s : Conversion) :
    s.run [.leftParen ['('], .operator ['+'], .operator ['*']] =
      .ok ⟨[.operator ['*'], .operator ['+'], .leftParen ['(']] ++ s.stack, s.emitted⟩ :=
  rfl

/-- The bound is reached with any number of open parentheses. -/
theorem exists_stack_full (n : Nat) :
    ∃ ts s, (∀ t ∈ ts, t.belongs = true) ∧ start.run ts = .ok s ∧ s.opened = n ∧
      s.stack.length = 3 * n + 2 := by
  induction n with
  | zero => exact ⟨[.operator ['+'], .operator ['*']], _, by decide, rfl, rfl, rfl⟩
  | succ n ih =>
    obtain ⟨ts, s, hts, hrun, hopened, hlength⟩ := ih
    refine ⟨_, _, ?_, (run_append hrun _).trans (run_full_layer s), ?_, ?_⟩
    · exact List.forall_mem_append.2 ⟨hts, by decide⟩
    · rw [opened, List.countP_append, ← opened, hopened]
      exact Nat.add_comm 1 n
    · rw [List.length_append, hlength]
      show 3 + (3 * n + 2) = 3 * (n + 1) + 2
      omega

end Conversion

end LineCalc
