import Mathlib.Data.List.Basic
import LineCalc.Postfix.Conversion
import LineCalc.Proofs.Tokens

/-!
# Nothing is lost in a conversion

A conversion only moves tokens: from the input to the stack or to the output, and from the
stack to the output.  `Moves` lists what one token can do to it, and `moves_of_step` says
that a step that goes through is one of these moves.  Ranks decide how much is moved and
play no part in it, so all of this holds of any tokens, operators without a rank and
unbalanced parentheses included.

To follow the tokens, each is kept together with its place in the input.  `Tracked` is the
invariant of a conversion of such tokens.  It has one lemma for each way of moving a token,
and the moves are put together from these.

* `exists_order` is what comes out: a postfix expression is a rearrangement of the tokens
  that are no parentheses, in which no token stands before an operand that it follows in the
  input.
* `perm_of_toPostfix` forgets the places.
-/

namespace LineCalc

namespace Conversion

/-! ## Runs -/

theorem run_cons {s s' : Conversion} {t : Token} (h : s.step t = .ok s') (ts : List Token) :
    s.run (t :: ts) = s'.run ts := by
  rw [run, List.foldlM_cons, h]
  rfl

/-- A run that goes through begins with a step that does. -/
theorem exists_step_of_run {s s' : Conversion} {t : Token} {ts : List Token}
    (h : s.run (t :: ts) = .ok s') : ∃ s₁, s.step t = .ok s₁ ∧ s₁.run ts = .ok s' := by
  rw [run, List.foldlM_cons] at h
  exact exists_of_bind_eq_ok h

theorem run_append {s s' : Conversion} {ts : List Token} (h : s.run ts = .ok s')
    (us : List Token) : s.run (ts ++ us) = s'.run us := by
  rw [run, List.foldlM_append]
  change (s.run ts >>= fun s' => s'.run us) = _
  rw [h]
  rfl

/-- What holds before a run and is kept by every token holds after the run.  `read` are
the tokens that have been read. -/
theorem run_induction {s s' : Conversion} {ts : List Token}
    (I : List Token → Conversion → Prop)
    (hkeeps : ∀ read t s s', t ∈ ts → s.step t = .ok s' → I read s → I (read ++ [t]) s')
    (read : List Token) (hI : I read s) (h : s.run ts = .ok s') : I (read ++ ts) s' := by
  induction ts generalizing s read with
  | nil =>
    cases h
    rw [List.append_nil]
    exact hI
  | cons t ts ih =>
    obtain ⟨s₁, hstep, hrun⟩ := exists_step_of_run h
    rw [List.append_cons]
    refine ih (fun read u s s' hu => hkeeps read u s s' (List.mem_cons_of_mem _ hu)) _ ?_ hrun
    exact hkeeps read t s s₁ List.mem_cons_self hstep hI

theorem toPostfix_of_run {ts : List Token} {s : Conversion} (h : start.run ts = .ok s) :
    toPostfix ts = s.finish := by
  rw [toPostfix, h]
  rfl

/-- A conversion that goes through is a run to the end and the release of what waits there. -/
theorem exists_run_of_toPostfix {ts ps : List Token} (h : toPostfix ts = .ok ps) :
    ∃ s out, start.run ts = .ok s ∧ releaseAll s.emitted s.stack = .ok out ∧ out.reverse = ps := by
  obtain ⟨s, hrun, hfinish⟩ := exists_of_bind_eq_ok h
  rw [finish] at hfinish
  cases hrelease : releaseAll s.emitted s.stack with
  | error fault =>
    rw [hrelease] at hfinish
    cases hfinish
  | ok out =>
    rw [hrelease] at hfinish
    exact ⟨s, out, hrun, hrelease, Except.ok.inj hfinish⟩

/-! ## What a token moves -/

/-- What one token does to a conversion that goes on. -/
inductive Moves (s : Conversion) : Token → Conversion → Prop where
  | operand {t : Token} (ht : t.isOperand = true) : Moves s t ⟨s.stack, t :: s.emitted⟩
  | opens (text : Text) : Moves s (.leftParen text) ⟨.leftParen text :: s.stack, s.emitted⟩
  | operator (symbol : Text) {ops below : List Token} (hstack : s.stack = ops ++ below)
      (hops : ∀ t ∈ ops, t.isLeftParen = false) :
      Moves s (.operator symbol) ⟨.operator symbol :: below, ops.reverse ++ s.emitted⟩
  | closes (text : Text) {ops below : List Token} {left : Text}
      (hstack : s.stack = ops ++ .leftParen left :: below)
      (hops : ∀ t ∈ ops, t.isLeftParen = false) :
      Moves s (.rightParen text) ⟨below, ops.reverse ++ s.emitted⟩

theorem release_eq_ok {symbol : Text} {emitted stack : List Token} {s : Conversion}
    (h : release symbol emitted stack = .ok s) :
    ∃ ops below, stack = ops ++ below ∧ (∀ t ∈ ops, t.isLeftParen = false) ∧
      s = ⟨below, ops.reverse ++ emitted⟩ := by
  induction stack generalizing emitted with
  | nil =>
    cases h
    exact ⟨[], [], rfl, List.forall_mem_nil _, rfl⟩
  | cons t stack ih =>
    cases t with
    | operator top =>
      rw [release] at h
      obtain ⟨topRank, -, h⟩ := exists_of_bind_eq_ok h
      obtain ⟨rank, -, h⟩ := exists_of_bind_eq_ok h
      split at h
      · obtain ⟨ops, below, rfl, hops, rfl⟩ := ih h
        refine ⟨.operator top :: ops, below, rfl, List.forall_mem_cons.2 ⟨rfl, hops⟩, ?_⟩
        simp
      · cases h
        exact ⟨[], _, rfl, List.forall_mem_nil _, rfl⟩
    | _ =>
      cases h
      exact ⟨[], _, rfl, List.forall_mem_nil _, rfl⟩

theorem closeGroup_eq_ok {emitted stack : List Token} {s : Conversion}
    (h : closeGroup emitted stack = .ok s) :
    ∃ ops left below, stack = ops ++ .leftParen left :: below ∧
      (∀ t ∈ ops, t.isLeftParen = false) ∧ s = ⟨below, ops.reverse ++ emitted⟩ := by
  induction stack generalizing emitted with
  | nil => cases h
  | cons t stack ih =>
    cases t with
    | leftParen left =>
      cases h
      exact ⟨[], left, stack, rfl, List.forall_mem_nil _, rfl⟩
    | _ =>
      obtain ⟨ops, left, below, rfl, hops, rfl⟩ := ih h
      refine ⟨_ :: ops, left, below, rfl, List.forall_mem_cons.2 ⟨rfl, hops⟩, ?_⟩
      simp

theorem releaseAll_eq_ok {emitted stack out : List Token} (h : releaseAll emitted stack = .ok out) :
    (∀ t ∈ stack, t.isLeftParen = false) ∧ out = stack.reverse ++ emitted := by
  induction stack generalizing emitted with
  | nil =>
    cases h
    exact ⟨List.forall_mem_nil _, rfl⟩
  | cons t stack ih =>
    cases t with
    | leftParen left => cases h
    | _ =>
      obtain ⟨hstack, rfl⟩ := ih h
      refine ⟨List.forall_mem_cons.2 ⟨rfl, hstack⟩, ?_⟩
      simp

/-- A step that goes through moves tokens and does nothing else. -/
theorem moves_of_step {s s' : Conversion} {t : Token} (h : s.step t = .ok s') : Moves s t s' := by
  cases t with
  | number text value =>
    cases h
    exact .operand rfl
  | var name =>
    cases h
    exact .operand rfl
  | leftParen text =>
    cases h
    exact .opens text
  | rightParen text =>
    obtain ⟨ops, left, below, hstack, hops, rfl⟩ := closeGroup_eq_ok h
    exact .closes text hstack hops
  | operator symbol =>
    obtain ⟨released, hrelease, h⟩ := exists_of_bind_eq_ok h
    obtain ⟨ops, below, hstack, hops, rfl⟩ := release_eq_ok hrelease
    cases h
    exact .operator symbol hstack hops
  | foreign description => cases h

/-! ## Tokens with their places -/

/-- The tokens that are no parentheses. -/
def kept (ts : List Token) : List Token :=
  ts.filter fun t => !t.isParen

/-- The tokens that are no parentheses, each with its place among all tokens. -/
def places (ts : List Token) : List (Token × Nat) :=
  ts.zipIdx.filter fun p => !p.1.isParen

theorem map_places (ts : List Token) : (places ts).map Prod.fst = kept ts := by
  have hfilter : (ts.zipIdx.map Prod.fst).filter (fun t => !t.isParen) =
      (places ts).map Prod.fst := List.filter_map
  rw [← hfilter, List.zipIdx_map_fst, kept]

theorem places_snoc (read : List Token) (t : Token) :
    places (read ++ [t]) = places read ++ if t.isParen then [] else [(t, read.length)] := by
  rw [places, List.zipIdx_append, List.filter_append, places]
  cases ht : t.isParen <;> simp [ht]

theorem lt_of_mem_places {read : List Token} {p : Token × Nat} (hp : p ∈ places read) :
    p.2 < read.length := by
  have hmem : p ∈ read.zipIdx := List.mem_of_mem_filter hp
  have hlt := (List.mem_zipIdx hmem).2.1
  omega

/-- The places of tokens go up from the first to the last. -/
theorem pairwise_places (ts : List Token) : (places ts).Pairwise fun a b => a.2 < b.2 := by
  have hplaces : (ts.zipIdx.map Prod.snd).Pairwise (· < ·) := by
    rw [List.zipIdx_map_snd]
    exact List.pairwise_lt_range'
  exact (List.pairwise_map.1 hplaces).filter _

/-- The waiting and the emitted tokens of a conversion that has read `read`, each with its
place, the last one first.  No token is emitted before an operand that it follows. -/
structure Tracked (read : List Token) (waiting emitted : List (Token × Nat)) : Prop where
  waits : ∀ p ∈ waiting, p.1.isOperator = true ∨ p.1.isLeftParen = true
  perm : (waiting.filter (fun p => !p.1.isParen) ++ emitted).Perm (places read)
  ordered : emitted.Pairwise fun later earlier => later.1.isOperand = true → earlier.2 < later.2

namespace Tracked

variable {read : List Token} {waiting emitted : List (Token × Nat)} {t : Token}

theorem start : Tracked [] [] [] :=
  ⟨List.forall_mem_nil _, .nil, .nil⟩

/-- An operand goes to the output. -/
theorem operand (h : Tracked read waiting emitted) (ht : t.isOperand = true) :
    Tracked (read ++ [t]) waiting ((t, read.length) :: emitted) := by
  refine ⟨h.waits, ?_, List.pairwise_cons.2 ⟨?_, h.ordered⟩⟩
  · rw [places_snoc, Token.isParen_of_isOperand ht]
    exact List.perm_middle.trans ((h.perm.cons _).trans (List.perm_append_singleton _ _).symm)
  · intro p hp _
    exact lt_of_mem_places (h.perm.subset (List.mem_append_right _ hp))

/-- An operator or a left parenthesis goes to the stack. -/
theorem push (h : Tracked read waiting emitted)
    (ht : t.isOperator = true ∨ t.isLeftParen = true) :
    Tracked (read ++ [t]) ((t, read.length) :: waiting) emitted := by
  refine ⟨List.forall_mem_cons.2 ⟨ht, h.waits⟩, ?_, h.ordered⟩
  rw [places_snoc]
  cases hparen : t.isParen with
  | true => simpa [hparen] using h.perm
  | false =>
    rw [List.filter_cons_of_pos (by simp [hparen])]
    exact (h.perm.cons _).trans (List.perm_append_singleton _ _).symm

/-- Operators go from the stack to the output. -/
theorem release {ops : List (Token × Nat)} (h : Tracked read (ops ++ waiting) emitted)
    (hops : ∀ p ∈ ops, p.1.isLeftParen = false) :
    Tracked read waiting (ops.reverse ++ emitted) := by
  obtain ⟨hopsWait, hwaiting⟩ := List.forall_mem_append.1 h.waits
  have hoperator : ∀ p ∈ ops, p.1.isOperator = true := by
    intro p hp
    rcases hopsWait p hp with hoperator | hleft
    · exact hoperator
    · rw [hops p hp] at hleft
      cases hleft
  have hkept : ops.filter (fun p => !p.1.isParen) = ops := by
    rw [List.filter_eq_self]
    intro p hp
    rw [Token.isParen_of_isOperator (hoperator p hp)]
    rfl
  -- Nothing is asked of an operator, so it may be emitted at any time.
  have hfree : ∀ later ∈ ops.reverse, ∀ earlier : Token × Nat,
      later.1.isOperand = true → earlier.2 < later.2 := by
    intro later hlater earlier hoperand
    rw [Token.isOperand_of_isOperator (hoperator later (List.mem_reverse.1 hlater))] at hoperand
    cases hoperand
  have hperm := h.perm
  rw [List.filter_append, hkept, List.append_assoc] at hperm
  have hreverse : (ops.reverse ++ emitted).Perm (ops ++ emitted) :=
    (List.reverse_perm ops).append_right emitted
  refine ⟨hwaiting, ?_, List.pairwise_append.2 ⟨?_, h.ordered, ?_⟩⟩
  · exact ((hreverse.append_left _).trans (List.perm_append_comm_assoc ..)).trans hperm
  · exact List.pairwise_of_forall_mem_list fun later hlater earlier _ => hfree later hlater earlier
  · exact fun later hlater earlier _ => hfree later hlater earlier

/-- A parenthesis that is closed leaves the stack. -/
theorem close {left : Token × Nat} (h : Tracked read (left :: waiting) emitted)
    (hleft : left.1.isLeftParen = true) (ht : t.isRightParen = true) :
    Tracked (read ++ [t]) waiting emitted := by
  obtain ⟨-, hwaiting⟩ := List.forall_mem_cons.1 h.waits
  have hperm := h.perm
  rw [List.filter_cons_of_neg (by simp [Token.isParen, hleft])] at hperm
  refine ⟨hwaiting, ?_, h.ordered⟩
  rw [places_snoc, Token.isParen, ht, Bool.or_true]
  simpa using hperm

end Tracked

/-! ## What a run moves -/

/-- The tokens of a conversion that has read `read` can be given their places. -/
def Placed (read : List Token) (s : Conversion) : Prop :=
  ∃ waiting emitted, s = ⟨waiting.map Prod.fst, emitted.map Prod.fst⟩ ∧
    Tracked read waiting emitted

theorem Placed.step {read : List Token} {s s' : Conversion} {t : Token} (h : Placed read s)
    (hmoves : Moves s t s') : Placed (read ++ [t]) s' := by
  obtain ⟨waiting, emitted, rfl, h⟩ := h
  cases hmoves with
  | operand ht => exact ⟨waiting, _, rfl, h.operand ht⟩
  | opens text => exact ⟨_, emitted, rfl, h.push (.inr rfl)⟩
  | operator symbol hstack hops =>
    obtain ⟨ops, below, rfl, rfl, rfl⟩ := List.map_eq_append_iff.1 hstack
    have hops : ∀ p ∈ ops, p.1.isLeftParen = false := fun p hp =>
      hops p.1 (List.mem_map_of_mem hp)
    exact ⟨_, _, by simp, (h.release hops).push (.inl rfl)⟩
  | closes text hstack hops =>
    obtain ⟨ops, rest, rfl, rfl, hrest⟩ := List.map_eq_append_iff.1 hstack
    obtain ⟨left, below, rfl, hleft, rfl⟩ := List.map_eq_cons_iff.1 hrest
    have hops : ∀ p ∈ ops, p.1.isLeftParen = false := fun p hp =>
      hops p.1 (List.mem_map_of_mem hp)
    have hleft : left.1.isLeftParen = true := by rw [hleft]; rfl
    exact ⟨_, _, by simp, (h.release hops).close hleft rfl⟩

theorem placed_of_run {ts : List Token} {s : Conversion} (h : start.run ts = .ok s) :
    Placed ts s := by
  have hstart : Placed [] start := ⟨[], [], rfl, .start⟩
  exact run_induction Placed (fun _ _ _ _ _ hstep hs => hs.step (moves_of_step hstep)) [] hstart h

end Conversion

open Conversion

variable {ts ps : List Token}

/-- A postfix expression has the tokens of the input but the parentheses, each once.  A token
stands before an operand only if it did so in the input. -/
theorem exists_order (h : toPostfix ts = .ok ps) :
    ∃ order : List (Token × Nat), order.map Prod.fst = ps ∧ order.Perm (places ts) ∧
      order.Pairwise fun a b => b.1.isOperand = true → a.2 < b.2 := by
  obtain ⟨s, out, hrun, hrelease, rfl⟩ := exists_run_of_toPostfix h
  obtain ⟨waiting, emitted, rfl, htracked⟩ := placed_of_run hrun
  obtain ⟨hwaiting, rfl⟩ := releaseAll_eq_ok hrelease
  -- The end releases the whole stack.
  have hend : Tracked ts [] (waiting.reverse ++ emitted) := by
    rw [← List.append_nil waiting] at htracked
    exact htracked.release fun p hp => hwaiting p.1 (List.mem_map_of_mem hp)
  refine ⟨(waiting.reverse ++ emitted).reverse, ?_, ?_, List.pairwise_reverse.2 hend.ordered⟩
  · simp
  · exact (List.reverse_perm _).trans hend.perm

theorem perm_of_toPostfix (h : toPostfix ts = .ok ps) : ps.Perm (kept ts) := by
  obtain ⟨order, rfl, hperm, -⟩ := exists_order h
  rw [← map_places]
  exact hperm.map Prod.fst

/-- A postfix expression has no tokens but those that were converted, and no parentheses. -/
theorem mem_of_toPostfix (h : toPostfix ts = .ok ps) :
    ∀ t ∈ ps, t ∈ ts ∧ t.isParen = false := by
  intro t ht
  have hmem : t ∈ kept ts := (perm_of_toPostfix h).mem_iff.1 ht
  rw [kept, List.mem_filter] at hmem
  exact ⟨hmem.1, by simpa using hmem.2⟩

/-- Forgetting the parentheses loses nothing of a class without parentheses. -/
theorem filter_kept {p : Token → Bool} (hp : ∀ t, p t = true → t.isParen = false)
    (ts : List Token) : (kept ts).filter p = ts.filter p := by
  rw [kept, List.filter_filter]
  refine List.filter_congr fun t _ => ?_
  cases ht : p t with
  | false => rfl
  | true => simp [hp t ht]

/-- The operands of a postfix expression are those of the input, in the same order. -/
theorem filter_isOperand_of_toPostfix (h : toPostfix ts = .ok ps) :
    ps.filter Token.isOperand = ts.filter Token.isOperand := by
  obtain ⟨order, rfl, hperm, hordered⟩ := exists_order h
  -- Both lists of operands go up by their places, so they are one list.
  have hup : (order.filter (Token.isOperand ∘ Prod.fst)).Pairwise fun a b => a.2 < b.2 :=
    List.pairwise_filter.2 (hordered.imp fun hab _ hb => hab hb)
  have hplaces : ((places ts).filter (Token.isOperand ∘ Prod.fst)).Pairwise fun a b => a.2 < b.2 :=
    (pairwise_places ts).filter _
  have heq : order.filter (Token.isOperand ∘ Prod.fst) =
      (places ts).filter (Token.isOperand ∘ Prod.fst) := by
    refine List.Perm.eq_of_pairwise ?_ hup hplaces (hperm.filter _)
    intro a b _ _ hab hba
    exact absurd hba (Nat.lt_asymm hab)
  rw [List.filter_map, heq, ← List.filter_map, map_places,
    filter_kept fun _ => Token.isParen_of_isOperand]

/-- The operators of a postfix expression are those of the input in some order. -/
theorem filter_isOperator_of_toPostfix (h : toPostfix ts = .ok ps) :
    (ps.filter Token.isOperator).Perm (ts.filter Token.isOperator) := by
  have hperm := (perm_of_toPostfix h).filter Token.isOperator
  rw [filter_kept fun _ => Token.isParen_of_isOperator] at hperm
  exact hperm

/-- A conversion loses, doubles and invents nothing, whatever tokens it is given.  The postfix
expression has no parenthesis, the operands of the input in their order, and its operators in
some order.  An operator is never moved before an operand that it follows: the tokens of the
postfix expression can be given their places in the input so that whatever stands before an
operand has the lower place. -/
theorem toPostfix_conserves (h : toPostfix ts = .ok ps) :
    (∀ t ∈ ps, t.isParen = false) ∧
      ps.filter Token.isOperand = ts.filter Token.isOperand ∧
      (ps.filter Token.isOperator).Perm (ts.filter Token.isOperator) ∧
      ∃ order : List (Token × Nat), order.map Prod.fst = ps ∧ order.Perm (places ts) ∧
        order.Pairwise fun a b => b.1.isOperand = true → a.2 < b.2 :=
  ⟨fun t ht => (mem_of_toPostfix h t ht).2, filter_isOperand_of_toPostfix h,
    filter_isOperator_of_toPostfix h, exists_order h⟩

/-- An operator without a rank, and one with nothing to operate on. -/
theorem toPostfix_conserves_unranked :
    let ts := [.var ['a'], .operator ['%'], .leftParen ['('], .operator ['+'], .rightParen [')'],
      .var ['b']]
    let ps := [.var ['a'], .operator ['+'], .var ['b'], .operator ['%']]
    toPostfix ts = .ok ps ∧ ps.filter Token.isOperand = ts.filter Token.isOperand ∧
      (ps.filter Token.isOperator).Perm (ts.filter Token.isOperator) ∧
      ∃ order : List (Token × Nat), order.map Prod.fst = ps ∧ order.Perm (places ts) ∧
        order.Pairwise fun a b => b.1.isOperand = true → a.2 < b.2 := by
  intro ts ps
  have hconverted : toPostfix ts = .ok ps := rfl
  exact ⟨hconverted, (toPostfix_conserves hconverted).2⟩

end LineCalc
