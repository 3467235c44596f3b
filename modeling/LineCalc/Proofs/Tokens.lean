import LineCalc.Lexer

/-!
# The tokens of a line

Lexing classifies the texts of a line one after another and stops at the first that is
no token.  This module says what is known of the tokens in the first case, and of the
rejection in the second.

* `Token.belongs` holds of the tokens that an expression may consist of: operands, the
  four operators and parentheses.  Lexing gives no others (`belongs_of_lex`).
* A token is of the kind of its text (`kind_of_classify`), and its text is the text it
  was made from, so counting tokens is counting texts.
* `classifyAll_eq_error` finds the rejected text of a line that is not classified, and
  `exists_classifyAll` says when there is none.
-/

namespace LineCalc

/-- What is done in two parts gives a result only if both parts do. -/
theorem exists_of_bind_eq_ok {ε α β : Type} {x : Except ε α} {f : α → Except ε β} {y : β}
    (h : x >>= f = .ok y) : ∃ a, x = .ok a ∧ f a = .ok y := by
  cases x with
  | error fault => cases h
  | ok a => exact ⟨a, rfl, h⟩

namespace Token

def isOperator : Token → Bool
  | .operator _ => true
  | _ => false

def isLeftParen : Token → Bool
  | .leftParen _ => true
  | _ => false

def isRightParen : Token → Bool
  | .rightParen _ => true
  | _ => false

def isParen (t : Token) : Bool :=
  t.isLeftParen || t.isRightParen

/-- Whether a token belongs in an expression: the sign of an operator must be that of an
operation. -/
def belongs : Token → Bool
  | .operator symbol => LineCalc.isOperator symbol
  | .foreign _ => false
  | _ => true

/-- An operator that belongs in an expression is the sign of an operation. -/
theorem exists_operation {symbol : Text} (h : belongs (.operator symbol) = true) :
    ∃ op, Operation.ofSymbol? symbol = some op :=
  Option.isSome_iff_exists.1 h

theorem isParen_of_isOperand {t : Token} (h : t.isOperand = true) : t.isParen = false := by
  cases t <;> first | rfl | cases h

theorem isParen_of_isOperator {t : Token} (h : t.isOperator = true) : t.isParen = false := by
  cases t <;> first | rfl | cases h

theorem isOperand_of_isOperator {t : Token} (h : t.isOperator = true) : t.isOperand = false := by
  cases t <;> first | rfl | cases h

end Token

/-! ## One text -/

theorem classify_symbol (op : Operation) : classify op.symbol = .ok (.operator op.symbol) := by
  cases op <;> rfl

/-- A token is of the kind of the text that it is made from. -/
theorem kind_of_classify {s : Text} {t : Token} (h : classify s = .ok t) :
    t.isOperand = isOperand s ∧ t.isOperator = isOperator s ∧
      t.isLeftParen = isLeftParen s ∧ t.isRightParen = isRightParen s := by
  by_cases hop : isOperator s = true
  · obtain ⟨op, hs⟩ := Option.isSome_iff_exists.1 hop
    rw [← Operation.symbol_of_ofSymbol? hs] at h ⊢
    rw [classify_symbol] at h
    cases h
    cases op <;> decide
  by_cases hleft : s = ['(']
  · subst hleft
    cases h
    decide
  by_cases hright : s = [')']
  · subst hright
    cases h
    decide
  have hl : isLeftParen s = false := by simpa [isLeftParen] using hleft
  have hr : isRightParen s = false := by simpa [isRightParen] using hright
  have ho : isOperator s = false := by simpa using hop
  rw [hl, hr, ho]
  unfold classify at h
  rw [ho, hl, hr] at h
  split at h
  · next hvar =>
    cases h
    simp [Token.isOperand, Token.isOperator, Token.isLeftParen, Token.isRightParen, isOperand, hvar]
  · simp only [Bool.false_eq_true, if_false] at h
    split at h
    · next value hvalue =>
      cases h
      simp [Token.isOperand, Token.isOperator, Token.isLeftParen, Token.isRightParen, isOperand,
        isNumber, hvalue]
    · cases h

theorem belongs_of_classify {s : Text} {t : Token} (h : classify s = .ok t) :
    t.belongs = true := by
  have htext := text_of_classify h
  obtain ⟨-, hop, -, -⟩ := kind_of_classify h
  unfold classify at h
  cases t with
  | operator symbol =>
    subst htext
    exact hop.symm
  | foreign description =>
    repeat' split at h
    all_goals cases h
  | _ => rfl

theorem classify_eq_error {s : Text} {r : Rejection} (h : classify s = .error r) :
    r = .badToken s := by
  unfold classify at h
  repeat' split at h
  all_goals cases h
  rfl

/-! ## The texts of a line -/

theorem classifyAll_cons (s : Text) (texts : List Text) :
    classifyAll (s :: texts) =
      (do
        let t ← classify s
        let ts ← classifyAll texts
        .ok (t :: ts)) :=
  List.mapM_cons

theorem classifyAll_append (texts later : List Text) :
    classifyAll (texts ++ later) =
      (do
        let ts ← classifyAll texts
        let us ← classifyAll later
        .ok (ts ++ us)) :=
  List.mapM_append

/-- Tokens made from texts have these texts, each is what its text is classified as. -/
theorem map_text_of_classifyAll {texts : List Text} {ts : List Token}
    (h : classifyAll texts = .ok ts) :
    ts.map Token.text = texts ∧ ∀ t ∈ ts, classify t.text = .ok t := by
  induction texts generalizing ts with
  | nil =>
    cases h
    simp
  | cons s texts ih =>
    rw [classifyAll_cons] at h
    obtain ⟨t, hs, h⟩ := exists_of_bind_eq_ok h
    obtain ⟨us, hrest, h⟩ := exists_of_bind_eq_ok h
    cases h
    obtain ⟨hmap, hmem⟩ := ih hrest
    have htext := text_of_classify hs
    simp only [List.map_cons, htext, hmap, List.forall_mem_cons, true_and]
    exact ⟨hs, hmem⟩

/-- Tokens are what their texts are classified as, one after another. -/
theorem classifyAll_map_text {ts : List Token} (h : ∀ t ∈ ts, classify t.text = .ok t) :
    classifyAll (ts.map Token.text) = .ok ts := by
  induction ts with
  | nil => rfl
  | cons t ts ih =>
    obtain ⟨ht, hts⟩ := List.forall_mem_cons.1 h
    rw [List.map_cons, classifyAll_cons, ht, ih hts]
    rfl

/-- The first text that is no token decides the rejection. -/
theorem classifyAll_eq_error {texts : List Text} {s : Text}
    (h : texts.find? (fun text => !(classify text).isOk) = some s) :
    classifyAll texts = .error (.badToken s) := by
  induction texts with
  | nil => cases h
  | cons text texts ih =>
    rw [List.find?_cons] at h
    rw [classifyAll_cons]
    cases htext : classify text with
    | error r =>
      rw [htext] at h
      cases h
      rw [classify_eq_error htext]
      rfl
    | ok t =>
      rw [htext] at h
      rw [ih h]
      rfl

theorem exists_classifyAll {texts : List Text}
    (h : texts.find? (fun text => !(classify text).isOk) = none) :
    ∃ ts, classifyAll texts = .ok ts := by
  induction texts with
  | nil => exact ⟨[], rfl⟩
  | cons text texts ih =>
    rw [List.find?_cons] at h
    rw [classifyAll_cons]
    cases htext : classify text with
    | error r =>
      rw [htext] at h
      cases h
    | ok t =>
      rw [htext] at h
      obtain ⟨ts, hts⟩ := ih h
      rw [hts]
      exact ⟨t :: ts, rfl⟩

theorem find?_of_classifyAll {texts : List Text} {ts : List Token}
    (h : classifyAll texts = .ok ts) :
    texts.find? (fun text => !(classify text).isOk) = none := by
  cases hfind : texts.find? (fun text => !(classify text).isOk) with
  | none => rfl
  | some s =>
    rw [classifyAll_eq_error hfind] at h
    cases h

theorem lex_of_lexLine {line : Text} {ts : List Token} (h : lexLine line = .ok ts) :
    lex line = .ok ts := by
  rw [lexLine] at h
  cases hlex : lex line with
  | error reason =>
    rw [hlex] at h
    cases h
  | ok us =>
    rw [hlex] at h
    cases h
    rfl

/-- Lexing gives tokens that belong in an expression. -/
theorem belongs_of_lex {line : Text} {ts : List Token} (h : lex line = .ok ts) :
    ∀ t ∈ ts, t.belongs = true := by
  intro t ht
  exact belongs_of_classify ((map_text_of_classifyAll h).2 t ht)

theorem countP_map_text {ts : List Token} {p : Token → Bool} {q : Text → Bool}
    (hpq : ∀ s t, classify s = .ok t → p t = q s)
    (hts : ∀ t ∈ ts, classify t.text = .ok t) :
    (ts.map Token.text).countP q = ts.countP p := by
  rw [List.countP_map]
  apply List.countP_congr
  intro t ht
  rw [hpq t.text t (hts t ht), Function.comp_apply]

end LineCalc
