import LineCalc.Proofs.Tokens

/-!
# The texts of the tokens of a line

`tokenTexts` pads the parentheses of a line and takes its words.  Two equations say what
this comes to: a gap ends a token (`tokenTexts_gap`), and so does a parenthesis, which is a
token of its own (`tokenTexts_paren`).  Everything else about the texts of a line follows
from them.

* Reading a line once gives the same texts (`tokenTexts_eq_scanTexts`).
* Nothing of a line is lost but its gaps (`flatten_tokenTexts`).
* The texts of a line are those that are one token for themselves (`TokenText`), so they can
  be written with spaces between them and read again (`tokenTexts_join`).
-/

namespace LineCalc

open Text

/-- Whether a character is neither a gap nor a parenthesis, so that it is part of a longer
token. -/
def isTokenChar (c : Char) : Bool :=
  !isGap c && !isParen c

/-- A text that is one token: a parenthesis, or characters that belong together. -/
inductive TokenText : Text → Prop where
  | paren {c : Char} (hc : isParen c = true) : TokenText [c]
  | word {s : Text} (hs : s ≠ []) (hchars : ∀ c ∈ s, isTokenChar c = true) : TokenText s

theorem isTokenChar_iff {c : Char} :
    isTokenChar c = true ↔ isGap c = false ∧ isParen c = false := by
  simp [isTokenChar]

theorem isGap_eq_false_of_isParen {c : Char} (hc : isParen c = true) : isGap c = false := by
  simp only [isParen, Bool.or_eq_true, beq_iff_eq] at hc
  rcases hc with rfl | rfl <;> decide

/-! ## What one token is made of -/

theorem TokenText.of_mem_paren {s : Text} (h : TokenText s) {c : Char} (hc : c ∈ s)
    (hparen : isParen c = true) : s = [c] := by
  cases h with
  | paren _ => simpa using (List.mem_singleton.1 hc).symm
  | word _ hchars =>
    rw [(isTokenChar_iff.1 (hchars c hc)).2] at hparen
    cases hparen

theorem TokenText.isGap_eq_false {s : Text} (h : TokenText s) : ∀ c ∈ s, isGap c = false := by
  cases h with
  | paren hc => simpa using isGap_eq_false_of_isParen hc
  | word _ hchars => exact fun c hc => (isTokenChar_iff.1 (hchars c hc)).1

theorem TokenText.ne_nil {s : Text} (h : TokenText s) : s ≠ [] := by
  cases h with
  | paren _ => simp
  | word hs _ => exact hs

/-! ## Where a token ends -/

theorem padParens_append (left right : Text) :
    padParens (left ++ right) = padParens left ++ padParens right :=
  List.flatMap_append

theorem padParens_eq_self {s : Text} (h : ∀ c ∈ s, isParen c = false) : padParens s = s := by
  induction s with
  | nil => rfl
  | cons c s ih =>
    obtain ⟨hc, hs⟩ := List.forall_mem_cons.1 h
    have hcons : padParens (c :: s) = (if isParen c then [' ', c, ' '] else [c]) ++ padParens s :=
      List.flatMap_cons
    rw [hcons, hc, ih hs]
    rfl

/-- A gap ends a token. -/
theorem tokenTexts_gap {c : Char} (hc : isGap c = true) (left right : Text) :
    tokenTexts (left ++ c :: right) = tokenTexts left ++ tokenTexts right := by
  have hparen : isParen c = false := by
    rw [← Bool.not_eq_true]
    intro hparen
    rw [isGap_eq_false_of_isParen hparen] at hc
    cases hc
  have hpad : padParens (c :: right) = c :: padParens right := by
    rw [← List.singleton_append, padParens_append, padParens_eq_self (by simpa using hparen)]
    rfl
  rw [tokenTexts, padParens_append, hpad, words_append hc]
  rfl

theorem tokenTexts_nil : tokenTexts [] = [] :=
  rfl

theorem tokenTexts_gaps_append {gaps : Text} (hgaps : ∀ c ∈ gaps, isGap c = true) (right : Text) :
    tokenTexts (gaps ++ right) = tokenTexts right := by
  induction gaps with
  | nil => rfl
  | cons c gaps ih =>
    obtain ⟨hc, hgaps⟩ := List.forall_mem_cons.1 hgaps
    exact (tokenTexts_gap hc [] (gaps ++ right)).trans (ih hgaps)

/-- A parenthesis ends a token and is a token. -/
theorem tokenTexts_paren {c : Char} (hc : isParen c = true) (left right : Text) :
    tokenTexts (left ++ c :: right) = tokenTexts left ++ [c] :: tokenTexts right := by
  have hspace : isGap ' ' = true := rfl
  have hpad : padParens (c :: right) = ' ' :: ([c] ++ ' ' :: padParens right) := by
    rw [← List.singleton_append, padParens_append, padParens, List.flatMap_singleton, hc]
    rfl
  have hword : words isGap [c] = [[c]] :=
    words_eq_singleton (by simp) (by simpa using isGap_eq_false_of_isParen hc)
  rw [tokenTexts, padParens_append, hpad, words_append hspace, words_append hspace, hword]
  rfl

/-- Characters that belong together are one token. -/
theorem tokenTexts_word {s : Text} (hs : s ≠ []) (hchars : ∀ c ∈ s, isTokenChar c = true) :
    tokenTexts s = [s] := by
  have hparens : ∀ c ∈ s, isParen c = false := fun c hc => (isTokenChar_iff.1 (hchars c hc)).2
  have hgaps : ∀ c ∈ s, isGap c = false := fun c hc => (isTokenChar_iff.1 (hchars c hc)).1
  rw [tokenTexts, padParens_eq_self hparens, words_eq_singleton hs hgaps]

theorem TokenText.tokenTexts_eq {s : Text} (h : TokenText s) : tokenTexts s = [s] := by
  cases h with
  | paren hc => exact tokenTexts_paren hc [] []
  | word hs hchars => exact tokenTexts_word hs hchars

/-! ## Reading a line once -/

private theorem forall_mem_snoc {current : Text} {c : Char}
    (h : ∀ d ∈ current, isTokenChar d = true) (hgap : ¬ isGap c = true)
    (hparen : ¬ isParen c = true) : ∀ d ∈ current ++ [c], isTokenChar d = true := by
  rw [List.forall_mem_append, List.forall_mem_singleton, isTokenChar_iff]
  exact ⟨h, by simpa using hgap, by simpa using hparen⟩

/-- A character that belongs to a longer token goes on with the one that is being read. -/
theorem scanFrom_of_isTokenChar {c : Char} (hc : isTokenChar c = true) (current rest : Text) :
    scanFrom current (c :: rest) = scanFrom (current ++ [c]) rest := by
  obtain ⟨hgap, hparen⟩ := isTokenChar_iff.1 hc
  rw [scanFrom, hgap, hparen]
  rfl

theorem tokenTexts_eq_closeToken {current : Text} (h : ∀ c ∈ current, isTokenChar c = true)
    (rest : List Text) : tokenTexts current ++ rest = closeToken current rest := by
  cases current with
  | nil => rfl
  | cons c current =>
    rw [tokenTexts_word (List.cons_ne_nil c current) h]
    rfl

theorem tokenTexts_append_eq_scanFrom {current : Text}
    (h : ∀ c ∈ current, isTokenChar c = true) (line : Text) :
    tokenTexts (current ++ line) = scanFrom current line := by
  -- The scan is inside the token `current`, so the induction is for all such tokens.
  induction line generalizing current with
  | nil =>
    rw [scanFrom, ← tokenTexts_eq_closeToken h, List.append_nil, List.append_nil]
  | cons c line ih =>
    have hline : tokenTexts line = scanFrom [] line := by
      rw [← ih (List.forall_mem_nil _), List.nil_append]
    rw [scanFrom]
    split
    · next hgap => rw [tokenTexts_gap hgap, hline, tokenTexts_eq_closeToken h]
    · next hgap =>
      split
      · next hparen => rw [tokenTexts_paren hparen, hline, tokenTexts_eq_closeToken h]
      · next hparen =>
        rw [List.append_cons, ih (forall_mem_snoc h hgap hparen)]

theorem tokenTexts_eq_scanTexts (line : Text) : tokenTexts line = scanTexts line := by
  rw [scanTexts, ← tokenTexts_append_eq_scanFrom (List.forall_mem_nil _), List.nil_append]

/-! ## What the texts of a line are -/

theorem forall_mem_closeToken {current : Text} (h : ∀ c ∈ current, isTokenChar c = true)
    {rest : List Text} (hrest : ∀ s ∈ rest, TokenText s) :
    ∀ s ∈ closeToken current rest, TokenText s := by
  cases current with
  | nil => exact hrest
  | cons c current => exact List.forall_mem_cons.2 ⟨.word (List.cons_ne_nil c current) h, hrest⟩

theorem forall_mem_scanFrom {current : Text} (h : ∀ c ∈ current, isTokenChar c = true)
    (line : Text) : ∀ s ∈ scanFrom current line, TokenText s := by
  induction line generalizing current with
  | nil => exact forall_mem_closeToken h (List.forall_mem_nil _)
  | cons c line ih =>
    have hline : ∀ s ∈ scanFrom [] line, TokenText s := ih (List.forall_mem_nil _)
    rw [scanFrom]
    split
    · exact forall_mem_closeToken h hline
    · next hgap =>
      split
      · next hparen =>
        exact forall_mem_closeToken h (List.forall_mem_cons.2 ⟨.paren hparen, hline⟩)
      · next hparen => exact ih (forall_mem_snoc h hgap hparen)

/-- The texts of a line are tokens for themselves. -/
theorem tokenText_of_mem {line s : Text} (hs : s ∈ tokenTexts line) : TokenText s := by
  rw [tokenTexts_eq_scanTexts] at hs
  exact forall_mem_scanFrom (List.forall_mem_nil _) line s hs

theorem flatten_closeToken (current : Text) (rest : List Text) :
    (closeToken current rest).flatten = current ++ rest.flatten := by
  cases current <;> rfl

theorem flatten_scanFrom (current line : Text) :
    (scanFrom current line).flatten = current ++ line.filter fun c => !isGap c := by
  induction line generalizing current with
  | nil => rw [scanFrom, flatten_closeToken]; rfl
  | cons c line ih =>
    rw [scanFrom]
    split
    · next hgap =>
      rw [flatten_closeToken, ih, List.filter_cons_of_neg (by simpa using hgap)]
      rfl
    · next hgap =>
      rw [List.filter_cons_of_pos (by simpa using hgap)]
      split
      · rw [flatten_closeToken, List.flatten_cons, ih]
        rfl
      · rw [ih, List.append_assoc]
        rfl

/-- The texts of a line are the line without its gaps. -/
theorem flatten_tokenTexts (line : Text) :
    (tokenTexts line).flatten = line.filter fun c => !isGap c := by
  rw [tokenTexts_eq_scanTexts, scanTexts, flatten_scanFrom, List.nil_append]

/-- A character that is no gap is part of a token. -/
theorem exists_mem_tokenTexts {line : Text} {c : Char} (hc : c ∈ line) (hgap : isGap c = false) :
    ∃ s ∈ tokenTexts line, c ∈ s := by
  have hmem : c ∈ (tokenTexts line).flatten := by
    rw [flatten_tokenTexts, List.mem_filter, hgap]
    exact ⟨hc, rfl⟩
  exact List.mem_flatten.1 hmem

/-- The tokens of a line are what their texts are classified as. -/
theorem tokenText_of_lex {line : Text} {ts : List Token} (h : lex line = .ok ts) :
    ∀ t ∈ ts, TokenText t.text ∧ classify t.text = .ok t := by
  obtain ⟨hmap, hclassify⟩ := map_text_of_classifyAll h
  intro t ht
  have hmem : t.text ∈ tokenTexts line := hmap ▸ List.mem_map_of_mem ht
  exact ⟨tokenText_of_mem hmem, hclassify t ht⟩

/-! ## Writing tokens and reading them again -/

/-- Texts that are tokens can be read again when there are spaces between them. -/
theorem tokenTexts_join {parts : List Text} (h : ∀ s ∈ parts, TokenText s) :
    tokenTexts (join [' '] parts) = parts := by
  induction parts with
  | nil => rfl
  | cons s parts ih =>
    obtain ⟨hs, hparts⟩ := List.forall_mem_cons.1 h
    cases parts with
    | nil =>
      rw [join, List.intercalate_singleton]
      exact hs.tokenTexts_eq
    | cons t parts =>
      have hspace : isGap ' ' = true := rfl
      have hjoin : join [' '] (s :: t :: parts) = s ++ ' ' :: join [' '] (t :: parts) := by
        rw [join, List.intercalate_cons_cons, List.append_assoc]
        rfl
      rw [hjoin, tokenTexts_gap hspace, hs.tokenTexts_eq, ih hparts, List.singleton_append]

/-- Tokens that are what their texts are classified as can be written and read again. -/
theorem lex_render {ts : List Token}
    (h : ∀ t ∈ ts, TokenText t.text ∧ classify t.text = .ok t) : lex (render ts) = .ok ts := by
  have htexts : ∀ s ∈ ts.map Token.text, TokenText s := by
    intro s hs
    obtain ⟨t, ht, rfl⟩ := List.mem_map.1 hs
    exact (h t ht).1
  rw [lex, render, tokenTexts_join htexts]
  exact classifyAll_map_text fun t ht => (h t ht).2

end LineCalc
