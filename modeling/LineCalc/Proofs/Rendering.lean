import LineCalc.Proofs.PostfixText

/-!
# Written tokens

`render` writes tokens with a space between them, and `lex` pads parentheses, cuts a text at its
gaps and classifies the parts.  The two undo each other on the tokens that a text can be read
as (`Token.Readable`).

* Such a token keeps the text that it was made from, so it can be made again
  (`Token.readable_iff`).  Nothing else is asked of its text: it may hold line ends and any blank
  that is no gap.
* The tokens of a line are readable (`readable_of_lex`), and the conversion to postfix makes no
  tokens of its own (`readable_of_toPostfix`).
-/

namespace LineCalc

open Text

/-- The token is what a text that is one token for itself is classified as. -/
def Token.Readable (t : Token) : Prop :=
  ∃ s, TokenText s ∧ classify s = .ok t

theorem Token.readable_iff {t : Token} :
    t.Readable ↔ TokenText t.text ∧ classify t.text = .ok t := by
  constructor
  · rintro ⟨s, hs, hclassify⟩
    obtain rfl := text_of_classify hclassify
    exact ⟨hs, hclassify⟩
  · rintro ⟨htext, hclassify⟩
    exact ⟨t.text, htext, hclassify⟩

theorem readable_of_lex {line : Text} {ts : List Token} (h : lex line = .ok ts) :
    ∀ t ∈ ts, t.Readable :=
  fun t ht => Token.readable_iff.2 (tokenText_of_lex h t ht)

theorem readable_of_toPostfix {ts ps : List Token} (hts : ∀ t ∈ ts, t.Readable)
    (h : toPostfix ts = .ok ps) : ∀ t ∈ ps, t.Readable := by
  intro t ht
  obtain ⟨hmem, -⟩ := mem_of_toPostfix h t ht
  exact hts t hmem

theorem lex_render_of_readable {ts : List Token} (h : ∀ t ∈ ts, t.Readable) :
    lex (render ts) = .ok ts :=
  lex_render fun t ht => Token.readable_iff.1 (h t ht)

/-- Tokens that are made from texts can be written and read again, and they come out with their
kinds, their texts and their values.  This goes for the tokens of a line and for those of its
postfix form.  The texts of a line, with a space between them, are cut into these texts, whether
they are tokens or not. -/
theorem lex_render_inverse :
    (∀ ts : List Token, (∀ t ∈ ts, t.Readable) →
        lex (render ts) = .ok ts ∧
          ∀ ps, toPostfix ts = .ok ps → lex (render ps) = .ok ps) ∧
      (∀ (line : Text) (ts : List Token), lex line = .ok ts →
        lex (render ts) = lex line ∧
          ∀ ps, toPostfix ts = .ok ps → lex (render ps) = .ok ps) ∧
      ∀ line : Text, tokenTexts (join [' '] (tokenTexts line)) = tokenTexts line := by
  have hreadable (ts : List Token) (hts : ∀ t ∈ ts, t.Readable) :
      lex (render ts) = .ok ts ∧ ∀ ps, toPostfix ts = .ok ps → lex (render ps) = .ok ps :=
    ⟨lex_render_of_readable hts,
      fun ps hps => lex_render_of_readable (readable_of_toPostfix hts hps)⟩
  refine ⟨hreadable, fun line ts hlex => ?_, fun line => tokenTexts_join fun s => tokenText_of_mem⟩
  rw [hlex]
  exact hreadable ts (readable_of_lex hlex)

/-- A numeral between blanks that are no gaps keeps them, and so does its value. -/
theorem lex_render_inverse_blank :
    let line := "(\u00a01_0\n + x)\t* \u2003-.5E1".toList
    let ts : List Token :=
      [.leftParen ['('], .number "\u00a01_0\n".toList 10, .operator ['+'], .var ['x'],
        .rightParen [')'], .operator ['*'], .number "\u2003-.5E1".toList (-5)]
    let ps : List Token :=
      [.number "\u00a01_0\n".toList 10, .var ['x'], .operator ['+'],
        .number "\u2003-.5E1".toList (-5), .operator ['*']]
    lex line = .ok ts ∧ (∀ t ∈ ts, t.Readable) ∧ toPostfix ts = .ok ps ∧
      render ps = "\u00a01_0\n x + \u2003-.5E1 *".toList ∧
      lex (render ts) = .ok ts ∧ lex (render ts) = lex line ∧ lex (render ps) = .ok ps := by
  intro line ts ps
  have hlex : lex line = .ok ts := by decide +kernel
  have hts : ∀ t ∈ ts, t.Readable := readable_of_lex hlex
  have hps : toPostfix ts = .ok ps := by decide +kernel
  have hrender : render ps = "\u00a01_0\n x + \u2003-.5E1 *".toList := by decide +kernel
  obtain ⟨hreadable, hline, -⟩ := lex_render_inverse
  exact ⟨hlex, hts, hps, hrender, (hreadable ts hts).1, (hline line ts hlex).1,
    (hline line ts hlex).2 ps hps⟩

end LineCalc
