import LineCalc.Proofs.Tokens

/-!
# The kind of a text

A text is a token of one kind at most.  The tokens that are no numbers have texts of one character
(`markTexts`), and none of these texts is a numeral (`isNumber_eq_false_of_mem`).  So it does not
matter in which order `classify` asks for the kinds, and `Classified` can list them side by side
(`classified_iff`).
-/

namespace LineCalc

/-- The names of variables. -/
def variableTexts : List Text :=
  "abcdefghijklmnopqrstuvwxyz".toList.map fun c => [c]

/-- The signs of operations. -/
def operatorTexts : List Text :=
  "+-*/".toList.map fun c => [c]

/-- The texts of the tokens that are no numbers. -/
def markTexts : List Text :=
  variableTexts ++ operatorTexts ++ [['('], [')']]

theorem isVariable_iff_mem {s : Text} : isVariable s = true ↔ s ∈ variableTexts := by
  constructor
  · intro h
    obtain ⟨c, rfl, hc⟩ := isVariable_iff.1 h
    have hletters : ∀ n < 26, [Char.ofNat (97 + n)] ∈ variableTexts := by decide
    have hrange : 97 ≤ c.toNat ∧ c.toNat ≤ 122 := by
      simp only [isLetter, Bool.and_eq_true, decide_eq_true_eq] at hc
      exact hc
    have hletter := hletters (c.toNat - 97) (by omega)
    rwa [Nat.add_sub_cancel' hrange.1, Char.ofNat_toNat] at hletter
  · intro h
    have hletters : ∀ t ∈ variableTexts, isVariable t = true := by decide
    exact hletters s h

theorem isOperator_iff_mem {s : Text} : isOperator s = true ↔ s ∈ operatorTexts := by
  constructor
  · intro h
    obtain ⟨op, hop⟩ := Option.isSome_iff_exists.1 h
    rw [← Operation.symbol_of_ofSymbol? hop]
    cases op <;> decide
  · intro h
    have hsigns : ∀ t ∈ operatorTexts, isOperator t = true := by decide
    exact hsigns s h

theorem mem_markTexts {s : Text} :
    s ∈ markTexts ↔ s ∈ variableTexts ∨ s ∈ operatorTexts ∨ s = ['('] ∨ s = [')'] := by
  simp [markTexts]

/-- A token that is no number has a text that is no numeral. -/
theorem isNumber_eq_false_of_mem {s : Text} (h : s ∈ markTexts) : isNumber s = false := by
  have hmarks : ∀ t ∈ markTexts, isNumber t = false := by decide +kernel
  exact hmarks s h

/-- What a text can be classified as. -/
inductive Classified (s : Text) : Except Rejection Token → Prop where
  | letter (h : s ∈ variableTexts) : Classified s (.ok (.var s))
  | operator (h : s ∈ operatorTexts) : Classified s (.ok (.operator s))
  | leftParen (h : s = ['(']) : Classified s (.ok (.leftParen s))
  | rightParen (h : s = [')']) : Classified s (.ok (.rightParen s))
  | number {x : Float} (h : readNumber? s = some x) : Classified s (.ok (.number s x))
  | rejected (hmark : s ∉ markTexts) (hnumber : isNumber s = false) :
      Classified s (.error (.badToken s))

/-- A text that can only be a number is one just if it is read as one. -/
theorem classify_of_not_mem {s : Text} (h : s ∉ markTexts) :
    classify s = (readNumber? s).elim (.error (.badToken s)) fun x => .ok (.number s x) := by
  simp only [mem_markTexts, not_or] at h
  obtain ⟨hvariable, hoperator, hleft, hright⟩ := h
  have hleft' : ¬ isLeftParen s = true := mt beq_iff_eq.1 hleft
  have hright' : ¬ isRightParen s = true := mt beq_iff_eq.1 hright
  rw [classify, if_neg (mt isVariable_iff_mem.1 hvariable),
    if_neg (mt isOperator_iff_mem.1 hoperator), if_neg hleft', if_neg hright']
  cases readNumber? s <;> rfl

theorem Classified.classify_eq {s : Text} {outcome : Except Rejection Token}
    (h : Classified s outcome) : classify s = outcome := by
  cases h with
  | letter hs => rw [classify, if_pos (isVariable_iff_mem.2 hs)]
  | operator hs =>
    obtain ⟨op, hop⟩ := Option.isSome_iff_exists.1 (isOperator_iff_mem.2 hs)
    rw [← Operation.symbol_of_ofSymbol? hop, classify_symbol]
  | leftParen hs =>
    rw [hs]
    rfl
  | rightParen hs =>
    rw [hs]
    rfl
  | number hread =>
    have hmark : s ∉ markTexts := by
      intro hs
      have hnone := isNumber_eq_false_of_mem hs
      rw [isNumber, hread] at hnone
      cases hnone
    rw [classify_of_not_mem hmark, hread]
    rfl
  | rejected hmark hnumber =>
    have hread : readNumber? s = none := by simpa [isNumber] using hnumber
    rw [classify_of_not_mem hmark, hread]
    rfl

theorem classified (s : Text) : Classified s (classify s) := by
  by_cases hmark : s ∈ markTexts
  · obtain ⟨outcome, h⟩ : ∃ outcome, Classified s outcome := by
      rcases mem_markTexts.1 hmark with hs | hs | hs | hs
      · exact ⟨_, .letter hs⟩
      · exact ⟨_, .operator hs⟩
      · exact ⟨_, .leftParen hs⟩
      · exact ⟨_, .rightParen hs⟩
    rwa [h.classify_eq]
  · rw [classify_of_not_mem hmark]
    cases hread : readNumber? s with
    | some x => exact .number hread
    | none => exact .rejected hmark (by rw [isNumber, hread]; rfl)

theorem classified_iff {s : Text} {outcome : Except Rejection Token} :
    classify s = outcome ↔ Classified s outcome :=
  ⟨fun h => h ▸ classified s, Classified.classify_eq⟩

end LineCalc
