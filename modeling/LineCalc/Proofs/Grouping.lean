import LineCalc.Proofs.Conversion

/-!
# Groups in a conversion

A conversion that reads a group in parentheses goes as the conversion of the group alone.
Two facts about one step carry this.

* What has been emitted before makes no difference (`step_after`): a conversion writes
  behind it and does not look at it.
* What waits below a left parenthesis makes no difference (`step_above`), as long as the
  conversion succeeds without it: no operator and no right parenthesis reaches below.

Hence a group is read as its postfix form, whatever waits and whatever has been emitted
(`reads_group`).  An operand is read as itself.  `Reads` says this of tokens, and
`Reads.toPostfix_eq` says what it comes to: the tokens may stand between any others, well
formed or not, and these are converted as if nothing were between them.  So a group is
converted as any operand is that stands nowhere else, with its postfix form put in place of
the operand (`Reads.toPostfix_substitute`).
-/

namespace LineCalc

namespace Conversion

/-- The conversion after one that has emitted the tokens `before`. -/
def after (before : List Token) (s : Conversion) : Conversion :=
  ⟨s.stack, s.emitted ++ before⟩

/-- The conversion with the stack `below` under its own. -/
def above (below : List Token) (s : Conversion) : Conversion :=
  ⟨s.stack ++ below, s.emitted⟩

/-! ## What has been emitted before -/

theorem release_after (symbol : Text) (emitted before stack : List Token) :
    release symbol (emitted ++ before) stack =
      (release symbol emitted stack).map (after before) := by
  induction stack generalizing emitted with
  | nil => rfl
  | cons t stack ih =>
    cases t with
    | operator top =>
      rw [release, release]
      cases operatorRank top with
      | error fault => rfl
      | ok topRank =>
        cases operatorRank symbol with
        | error fault => rfl
        | ok rank =>
          by_cases hrank : rank ≤ topRank
          · simpa [bind, Except.bind, hrank] using ih (.operator top :: emitted)
          · simp [bind, Except.bind, hrank, Except.map, after]
    | _ => rfl

theorem closeGroup_after (emitted before stack : List Token) :
    closeGroup (emitted ++ before) stack = (closeGroup emitted stack).map (after before) := by
  induction stack generalizing emitted with
  | nil => rfl
  | cons t stack ih =>
    cases t with
    | leftParen text => rfl
    | _ => exact ih (_ :: emitted)

theorem releaseAll_after (emitted before stack : List Token) :
    releaseAll (emitted ++ before) stack = (releaseAll emitted stack).map (· ++ before) := by
  induction stack generalizing emitted with
  | nil => rfl
  | cons t stack ih =>
    cases t with
    | leftParen text => rfl
    | _ => exact ih (_ :: emitted)

theorem step_after (before : List Token) (s : Conversion) (t : Token) :
    (s.after before).step t = (s.step t).map (after before) := by
  cases t with
  | rightParen text => exact closeGroup_after s.emitted before s.stack
  | operator symbol =>
    rw [step, step, after, release_after]
    cases release symbol s.emitted s.stack <;> rfl
  | _ => rfl

theorem run_after (before : List Token) (s : Conversion) (ts : List Token) :
    (s.after before).run ts = (s.run ts).map (after before) := by
  induction ts generalizing s with
  | nil => rfl
  | cons t ts ih =>
    rw [run, run, List.foldlM_cons, List.foldlM_cons, step_after]
    cases s.step t with
    | error fault => rfl
    | ok s' => exact ih s'

theorem finish_after (before : List Token) (s : Conversion) :
    (s.after before).finish = s.finish.map (before.reverse ++ ·) := by
  rw [finish, finish, after, releaseAll_after]
  cases releaseAll s.emitted s.stack with
  | error fault => rfl
  | ok emitted => simp [Except.map]

/-! ## What waits below a left parenthesis -/

variable {text : Text} {below : List Token}

theorem release_above (symbol : Text) (emitted stack : List Token) :
    release symbol emitted (stack ++ .leftParen text :: below) =
      (release symbol emitted stack).map (above (.leftParen text :: below)) := by
  induction stack generalizing emitted with
  | nil => rfl
  | cons t stack ih =>
    cases t with
    | operator top =>
      rw [List.cons_append, release, release]
      cases operatorRank top with
      | error fault => rfl
      | ok topRank =>
        cases operatorRank symbol with
        | error fault => rfl
        | ok rank =>
          by_cases hrank : rank ≤ topRank
          · simpa [bind, Except.bind, hrank] using ih (.operator top :: emitted)
          · simp [bind, Except.bind, hrank, Except.map, above]
    | _ => rfl

theorem closeGroup_above {emitted stack : List Token} {s : Conversion}
    (h : closeGroup emitted stack = .ok s) (below : List Token) :
    closeGroup emitted (stack ++ below) = .ok (s.above below) := by
  induction stack generalizing emitted with
  | nil => cases h
  | cons t stack ih =>
    cases t with
    | leftParen text =>
      cases h
      rfl
    | _ => exact ih h

theorem step_above {s s' : Conversion} {t : Token} (h : s.step t = .ok s') :
    (s.above (.leftParen text :: below)).step t = .ok (s'.above (.leftParen text :: below)) := by
  cases t with
  | rightParen right => exact closeGroup_above h _
  | operator symbol =>
    obtain ⟨released, hrelease, h⟩ := exists_of_bind_eq_ok h
    cases h
    rw [step, above, release_above, hrelease]
    rfl
  | foreign description => cases h
  | _ =>
    cases h
    rfl

theorem run_above {s s' : Conversion} {ts : List Token} (h : s.run ts = .ok s') :
    (s.above (.leftParen text :: below)).run ts = .ok (s'.above (.leftParen text :: below)) := by
  induction ts generalizing s with
  | nil =>
    cases h
    rfl
  | cons t ts ih =>
    obtain ⟨s₁, hstep, hrun⟩ := exists_step_of_run h
    rw [run_cons (step_above hstep)]
    exact ih hrun

/-- A right parenthesis releases what the end of the tokens would release. -/
theorem closeGroup_of_releaseAll {emitted stack out : List Token}
    (h : releaseAll emitted stack = .ok out) :
    closeGroup emitted (stack ++ .leftParen text :: below) = .ok ⟨below, out⟩ := by
  induction stack generalizing emitted with
  | nil =>
    cases h
    rfl
  | cons t stack ih =>
    cases t with
    | leftParen left => cases h
    | _ => exact ih h

/-! ## What is read as one operand -/

/-- The tokens are read as the postfix expression `ps`, whatever waits and whatever has
been emitted. -/
def Reads (ts ps : List Token) : Prop :=
  ∀ s : Conversion, s.run ts = .ok ⟨s.stack, ps.reverse ++ s.emitted⟩

theorem reads_nil : Reads [] [] :=
  fun _ => rfl

theorem reads_operand {t : Token} (ht : t.isOperand = true) : Reads [t] [t] := by
  intro s
  cases t with
  | number text value => rfl
  | var name => rfl
  | _ => cases ht

/-- A group is read as its postfix form. -/
theorem reads_group {ts ps : List Token} (h : toPostfix ts = .ok ps) (left right : Text) :
    Reads (.leftParen left :: ts ++ [.rightParen right]) ps := by
  intro s
  obtain ⟨inner, out, hrun, hrelease, rfl⟩ := exists_run_of_toPostfix h
  have hopen : s.step (.leftParen left) =
      .ok ((start.above (.leftParen left :: s.stack)).after s.emitted) := rfl
  have hinner : ((start.above (.leftParen left :: s.stack)).after s.emitted).run ts =
      .ok ((inner.above (.leftParen left :: s.stack)).after s.emitted) := by
    rw [run_after, run_above hrun]
    rfl
  have hclose : ((inner.above (.leftParen left :: s.stack)).after s.emitted).step
      (.rightParen right) = .ok ⟨s.stack, out ++ s.emitted⟩ := by
    rw [step_after, step, above, closeGroup_of_releaseAll hrelease]
    rfl
  rw [List.cons_append, run_cons hopen, run_append hinner, run_cons hclose, List.reverse_reverse]
  rfl

/-- What is emitted before and behind tokens that are read as one operand, when the tokens
`pre` stand before them and `post` behind them. -/
def around (pre post : List Token) : Except Fault (List Token × List Token) := do
  let s ← start.run pre
  let s' ← run ⟨s.stack, []⟩ post
  let behind ← s'.finish
  .ok (s.emitted.reverse, behind)

/-- Tokens that are read as one operand leave what stands around them as it is. -/
theorem Reads.toPostfix_eq {ts ps : List Token} (h : Reads ts ps) (pre post : List Token) :
    toPostfix (pre ++ ts ++ post) =
      (around pre post).map fun (before, behind) => before ++ ps ++ behind := by
  cases hpre : start.run pre with
  | error fault =>
    have hrun : start.run (pre ++ (ts ++ post)) = .error fault := by
      rw [run, List.foldlM_append]
      show (start.run pre >>= fun s => s.run (ts ++ post)) = _
      rw [hpre]
      rfl
    rw [List.append_assoc, toPostfix, hrun, around, hpre]
    rfl
  | ok s =>
    have hrun : start.run (pre ++ (ts ++ post)) =
        (run ⟨s.stack, []⟩ post).map (after (ps.reverse ++ s.emitted)) := by
      rw [run_append hpre, run_append (h s), ← run_after]
      rfl
    rw [List.append_assoc, toPostfix, hrun, around, hpre]
    cases hpost : run ⟨s.stack, []⟩ post with
    | error fault => simp [bind, Except.bind, Except.map, hpost]
    | ok s' =>
      show (s'.after (ps.reverse ++ s.emitted)).finish = _
      rw [finish_after]
      cases hfinish : s'.finish with
      | error fault => simp [bind, Except.bind, Except.map, hpost, hfinish]
      | ok behind => simp [bind, Except.bind, Except.map, hpost, hfinish]

/-- What is emitted around an operand are tokens that stand around it. -/
theorem mem_of_around {pre post before behind : List Token}
    (h : around pre post = .ok (before, behind)) :
    ∀ t ∈ before ++ behind, t ∈ pre ++ post := by
  have hnothing : toPostfix (pre ++ post) = .ok (before ++ behind) := by
    have heq := reads_nil.toPostfix_eq pre post
    rw [h, List.append_nil] at heq
    rw [heq]
    simp [Except.map]
  intro t ht
  exact (mem_of_toPostfix hnothing t ht).1

/-- Tokens that are read as one operand have its postfix form. -/
theorem Reads.toPostfix_alone {ts ps : List Token} (h : Reads ts ps) : toPostfix ts = .ok ps := by
  have halone := h.toPostfix_eq [] []
  have hnothing : around [] [] = .ok ([], []) := rfl
  rw [List.nil_append, List.append_nil, hnothing] at halone
  simpa [Except.map] using halone

end Conversion

open Text Conversion

/-! ## A group in place of an operand -/

section

variable {x : Token} {ts ps pre post : List Token}

/-- What is read as one operand is converted as an operand that stands nowhere else. -/
theorem Conversion.Reads.toPostfix_substitute (h : Reads ts ps) (hx : x.isOperand = true)
    (hpre : x ∉ pre) (hpost : x ∉ post) :
    toPostfix (pre ++ ts ++ post) = (toPostfix (pre ++ [x] ++ post)).map (substitute x ps) := by
  rw [h.toPostfix_eq, (reads_operand hx).toPostfix_eq]
  cases haround : around pre post with
  | error fault => rfl
  | ok parts =>
    obtain ⟨before, behind⟩ := parts
    have hmem : x ∉ before ++ behind := by
      intro hmem
      exact (List.mem_append.1 (mem_of_around haround x hmem)).elim hpre hpost
    rw [List.mem_append, not_or] at hmem
    simp only [Except.map]
    rw [substitute_append, substitute_append, substitute_self, substitute_of_not_mem hmem.1,
      substitute_of_not_mem hmem.2]

theorem count_of_toPostfix (hx : x.isOperand = true) (hpre : x ∉ pre) (hpost : x ∉ post)
    {qs : List Token} (h : toPostfix (pre ++ [x] ++ post) = .ok qs) : qs.count x = 1 := by
  have hkept : (kept (pre ++ [x] ++ post)).count x = (pre ++ [x] ++ post).count x :=
    List.count_filter (by simp [Token.isParen_of_isOperand hx])
  rw [(perm_of_toPostfix h).count_eq, hkept, List.count_append, List.count_append,
    List.count_eq_zero_of_not_mem hpre, List.count_eq_zero_of_not_mem hpost,
    List.count_singleton_self]

/-- A group in parentheses is converted as one operand.  In any surroundings, well formed or
not, it is rejected just as the operand is, and otherwise its postfix form stands where the
operand stood, once.  So parentheses around a whole balanced list, or around an operand
anywhere, change nothing. -/
theorem toPostfix_group (h : toPostfix ts = .ok ps) (left right : Text) (hx : x.isOperand = true)
    (hpre : x ∉ pre) (hpost : x ∉ post) :
    toPostfix (pre ++ (.leftParen left :: ts ++ [.rightParen right]) ++ post) =
        (toPostfix (pre ++ [x] ++ post)).map (substitute x ps) ∧
      (∀ qs, toPostfix (pre ++ [x] ++ post) = .ok qs → qs.count x = 1) ∧
      (∀ us : List Token, (∀ t ∈ us, t.belongs = true) → Balanced us →
        toPostfix (.leftParen left :: us ++ [.rightParen right]) = toPostfix us) ∧
      ∀ (us vs : List Token) (y : Token), y.isOperand = true →
        toPostfix (us ++ (.leftParen left :: [y] ++ [.rightParen right]) ++ vs) =
          toPostfix (us ++ [y] ++ vs) := by
  refine ⟨(reads_group h left right).toPostfix_substitute hx hpre hpost,
    fun _ => count_of_toPostfix hx hpre hpost, fun us hus hbalanced => ?_, fun us vs y hy => ?_⟩
  · obtain ⟨qs, hqs⟩ := exists_toPostfix hus (balanced_iff.1 hbalanced)
    rw [(reads_group hqs left right).toPostfix_alone, hqs]
  · have hy := reads_operand hy
    rw [(reads_group hy.toPostfix_alone left right).toPostfix_eq, hy.toPostfix_eq]

/-- A group that holds the operand, among misplaced operators and before a parenthesis too
many. -/
theorem toPostfix_group_misplaced :
    let x := Token.var ['x']
    let ts := [.var ['b'], .operator ['+'], x]
    let ps := [.var ['b'], x, .operator ['+']]
    let pre := [.operator ['*'], .var ['a'], .operator ['-']]
    let post := [.operator ['/'], .var ['c'], .var ['d']]
    let group := .leftParen ['('] :: ts ++ [.rightParen [')']]
    toPostfix ts = .ok ps ∧ x.isOperand = true ∧ x ∉ pre ∧ x ∉ post ∧
      toPostfix (pre ++ [x] ++ post) =
        .ok [.var ['a'], .operator ['*'], x, .var ['c'], .var ['d'], .operator ['/'],
          .operator ['-']] ∧
      toPostfix (pre ++ group ++ post) =
        .ok ([.var ['a'], .operator ['*']] ++ ps ++
          [.var ['c'], .var ['d'], .operator ['/'], .operator ['-']]) ∧
      toPostfix (pre ++ group ++ .rightParen [')'] :: post) =
        .error (.rejected .unmatchedRight) := by
  intro x ts ps pre post group
  have hconverted : toPostfix ts = .ok ps := rfl
  have hpre : x ∉ pre := by decide
  have hpost : x ∉ post := by decide
  have hmore : x ∉ .rightParen [')'] :: post := by decide
  have haround := (toPostfix_group hconverted ['('] [')'] rfl hpre hpost).1
  have hrejected := (toPostfix_group hconverted ['('] [')'] rfl hpre hmore).1
  exact ⟨hconverted, rfl, hpre, hpost, rfl, haround, hrejected⟩

end

end LineCalc
