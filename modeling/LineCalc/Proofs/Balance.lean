import LineCalc.Proofs.Tokens

/-!
# Balanced parentheses

`depth?` reads tokens and keeps count of the open parentheses.  It is the form of balance
that inductions on a list of tokens use.

`depth?_eq_none_iff` and `depth?_eq_some` tie it to counts: a right parenthesis without a
left one is a beginning of the list with more right parentheses than left ones, and in
any other list the open parentheses are the left ones less the right ones.  `ClosesEarly`
and `Balanced` say by counts alone what goes wrong and what goes well.
-/

namespace LineCalc

/-- The number of open parentheses after the tokens, if `opened` were open before.  There
is none if a right parenthesis has no left one. -/
def depth? (opened : Nat) : List Token → Option Nat
  | [] => some opened
  | .leftParen _ :: rest => depth? (opened + 1) rest
  | .rightParen _ :: rest =>
    match opened with
    | 0 => none
    | n + 1 => depth? n rest
  | _ :: rest => depth? opened rest

/-- The left parentheses are matched by the right ones or remain open. -/
theorem depth?_eq_some {opened d : Nat} {ts : List Token} (h : depth? opened ts = some d) :
    opened + ts.countP Token.isLeftParen = d + ts.countP Token.isRightParen := by
  induction ts generalizing opened with
  | nil =>
    cases h
    rfl
  | cons t rest ih =>
    rw [List.countP_cons, List.countP_cons]
    cases t with
    | leftParen text =>
      have hrest := ih h
      simp only [Token.isLeftParen, Token.isRightParen]
      simp
      omega
    | rightParen text =>
      cases opened with
      | zero => cases h
      | succ n =>
        have hrest := ih h
        simp only [Token.isLeftParen, Token.isRightParen]
        simp
        omega
    | _ => exact ih h

/-- A right parenthesis has no left one just if some beginning of the tokens has more
right parentheses than there are to close. -/
theorem depth?_eq_none_iff {opened : Nat} {ts : List Token} :
    depth? opened ts = none ↔
      ∃ before, before <+: ts ∧
        opened + before.countP Token.isLeftParen < before.countP Token.isRightParen := by
  induction ts generalizing opened with
  | nil => simp [depth?]
  | cons t rest ih =>
    have hcons : (∃ before, before <+: t :: rest ∧
          opened + before.countP Token.isLeftParen < before.countP Token.isRightParen) ↔
        ∃ before, before <+: rest ∧ opened + (t :: before).countP Token.isLeftParen <
          (t :: before).countP Token.isRightParen := by
      constructor
      · rintro ⟨before, hbefore, hlt⟩
        rcases List.prefix_cons_iff.1 hbefore with rfl | ⟨before, rfl, hprefix⟩
        · simp at hlt
        · exact ⟨before, hprefix, hlt⟩
      · rintro ⟨before, hprefix, hlt⟩
        exact ⟨t :: before, List.prefix_cons_iff.2 (.inr ⟨before, rfl, hprefix⟩), hlt⟩
    rw [hcons]
    simp only [List.countP_cons]
    cases t with
    | leftParen text =>
      rw [depth?, ih]
      refine exists_congr fun before => and_congr_right fun _ => ?_
      simp [Token.isLeftParen, Token.isRightParen]
      omega
    | rightParen text =>
      cases opened with
      | zero =>
        refine iff_of_true rfl ⟨[], List.nil_prefix, ?_⟩
        simp [Token.isLeftParen, Token.isRightParen]
      | succ n =>
        rw [depth?, ih]
        refine exists_congr fun before => and_congr_right fun _ => ?_
        simp [Token.isLeftParen, Token.isRightParen]
        omega
    | _ => exact ih

/-- Only the parentheses are counted. -/
theorem depth?_filter_isParen (opened : Nat) (ts : List Token) :
    depth? opened (ts.filter Token.isParen) = depth? opened ts := by
  induction ts generalizing opened with
  | nil => rfl
  | cons t ts ih =>
    cases t with
    | leftParen text => exact ih (opened + 1)
    | rightParen text =>
      cases opened with
      | zero => rfl
      | succ n => exact ih n
    | _ => exact ih opened

/-! ## Balance by counts -/

/-- Some beginning of the tokens has more right parentheses than left ones. -/
def ClosesEarly (ts : List Token) : Prop :=
  ∃ before, before <+: ts ∧ before.countP Token.isLeftParen < before.countP Token.isRightParen

/-- Every beginning of the tokens has at least as many left parentheses as right ones, and
all tokens together have as many of both. -/
def Balanced (ts : List Token) : Prop :=
  (∀ before, before <+: ts →
    before.countP Token.isRightParen ≤ before.countP Token.isLeftParen) ∧
    ts.countP Token.isLeftParen = ts.countP Token.isRightParen

theorem closesEarly_iff {ts : List Token} : ClosesEarly ts ↔ depth? 0 ts = none := by
  rw [depth?_eq_none_iff]
  simp only [Nat.zero_add]
  rfl

theorem balanced_iff {ts : List Token} : Balanced ts ↔ depth? 0 ts = some 0 := by
  have hbefore : (∀ before, before <+: ts →
      before.countP Token.isRightParen ≤ before.countP Token.isLeftParen) ↔
        depth? 0 ts ≠ none := by
    rw [ne_eq, ← closesEarly_iff, ClosesEarly]
    simp only [not_exists, not_and, Nat.not_lt]
  rw [Balanced, hbefore]
  cases hd : depth? 0 ts with
  | none => simp
  | some d =>
    have hcount := depth?_eq_some hd
    simp only [ne_eq, reduceCtorEq, not_false_eq_true, true_and, Option.some.injEq]
    omega

end LineCalc
