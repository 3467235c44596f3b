import LineCalc.Proofs.Alphabet
import LineCalc.Proofs.Legality

/-!
# Postfix expressions as texts

A line can be evaluated in two steps: it is shown as a postfix expression, and the text is
evaluated.  The text is cut and classified again, so the two ways agree because nothing is
lost between them: the tokens of a postfix expression are tokens of the line, whose texts
are tokens for themselves (`lex_render_of_toPostfix`).

* Where there is a postfix expression, both ways have the same outcome
  (`evaluatePostfixText_eq_infixValue`).
* Where there is none, the line is rejected for the same reason.  This is so for every line
  with an assignment sign, which belongs to no token.
-/

namespace LineCalc

/-- The tokens of a postfix expression can be written and read again. -/
theorem lex_render_of_toPostfix {line : Text} {ts ps : List Token} (hlex : lex line = .ok ts)
    (h : toPostfix ts = .ok ps) : lex (render ps) = .ok ps := by
  refine lex_render fun t ht => ?_
  obtain ⟨hmem, -⟩ := mem_of_toPostfix h t ht
  exact tokenText_of_lex hlex t hmem

theorem postfixOfLine_eq_ok {line : Text} {ps : List Token} (h : postfixOfLine line = .ok ps) :
    ∃ ts, lex line = .ok ts ∧ toPostfix ts = .ok ps := by
  obtain ⟨ts, hlex, hconverted⟩ := exists_of_bind_eq_ok h
  exact ⟨ts, lex_of_lexLine hlex, hconverted⟩

namespace Calculator

/-- The text of a postfix expression has the value of the line that it was made from. -/
theorem evaluatePostfixText_eq_infixValue (c : Calculator) {line : Text} {ps : List Token}
    (h : postfixOfLine line = .ok ps) :
    c.evaluatePostfixText (render ps) = c.infixValue line := by
  obtain ⟨ts, hlex, hconverted⟩ := postfixOfLine_eq_ok h
  rw [c.infixValue_of_postfixOfLine h, evaluatePostfixText, lexLine,
    lex_render_of_toPostfix hlex hconverted]
  rfl

/-- A line with an assignment sign has no postfix form: one of its texts is no token. -/
theorem postfixOfLine_of_mem {line : Text} (h : '=' ∈ line) :
    ∃ s, postfixOfLine line = .error (.rejected (.badToken s)) := by
  obtain ⟨s, hlex⟩ := lex_eq_error_of_mem h (by decide)
  refine ⟨s, ?_⟩
  rw [postfixOfLine, lexLine, hlex]
  rfl

theorem toPostfixText_eq_error {line : Text} {fault : Fault} :
    toPostfixText line = .error fault ↔ postfixOfLine line = .error fault := by
  rw [toPostfixText]
  cases postfixOfLine line <;> simp [Except.map]

theorem toPostfixText_eq_ok {line p : Text} :
    toPostfixText line = .ok p ↔ ∃ ps, postfixOfLine line = .ok ps ∧ render ps = p := by
  rw [toPostfixText]
  cases postfixOfLine line <;> simp [Except.map]

/-- A line and its postfix form have the same outcome, whatever the variables hold and
whether or not the calculator is strict.  A line without a postfix form is rejected for the
reason that it has none, unless it is an assignment; a line with an assignment sign has
none. -/
theorem evaluate_eq_evaluatePostfixText (c : Calculator) (line : Text) :
    (∀ p, toPostfixText line = .ok p →
        (c.evaluate line).1 = c.evaluatePostfixText p ∧
          ∀ fault, c.evaluatePostfixText p = .error fault →
            ∃ reason, fault = .rejected reason) ∧
      (∀ fault, toPostfixText line = .error fault →
        (∃ reason, fault = .rejected reason) ∧
          ('=' ∉ line → (c.evaluate line).1 = .error fault)) ∧
      ('=' ∈ line → ∃ s, toPostfixText line = .error (.rejected (.badToken s))) := by
  have hreason : ∀ fault, c.infixValue line = .error fault → ∃ reason, fault = .rejected reason := by
    intro fault hvalue
    have houtcome := c.outcome_infixValue line
    rw [hvalue] at houtcome
    rcases houtcome.ok_or_rejected with ⟨x, hx⟩ | ⟨reason, hreason⟩
    · cases hx
    · exact ⟨reason, Except.error.inj hreason⟩
  refine ⟨fun p hp => ?_, fun fault hfault => ?_, fun hline => ?_⟩
  · obtain ⟨ps, hps, rfl⟩ := toPostfixText_eq_ok.1 hp
    have hline : '=' ∉ line := by
      intro hmem
      obtain ⟨s, hs⟩ := postfixOfLine_of_mem hmem
      rw [hs] at hps
      cases hps
    rw [c.evaluate_of_not_mem hline, c.evaluatePostfixText_eq_infixValue hps]
    exact ⟨rfl, hreason⟩
  · have hconverted := toPostfixText_eq_error.1 hfault
    have hvalue := c.infixValue_of_postfixOfLine_error hconverted
    refine ⟨hreason fault hvalue, fun hline => ?_⟩
    rw [c.evaluate_of_not_mem hline, hvalue]
  · obtain ⟨s, hs⟩ := postfixOfLine_of_mem hline
    exact ⟨s, toPostfixText_eq_error.2 hs⟩

theorem evaluate_eq_evaluatePostfixText_group :
    let c : Calculator := ⟨⟨[('x', 2)]⟩, false⟩
    toPostfixText "3 (1 + x) * 2_0".toList = .ok "3 1 x + 2_0 *".toList ∧
      (c.evaluate "3 (1 + x) * 2_0".toList).1 = c.evaluatePostfixText "3 1 x + 2_0 *".toList ∧
      toPostfixText "(1".toList = .error (.rejected .unclosedLeft) ∧
      (c.evaluate "(1".toList).1 = .error (.rejected .unclosedLeft) ∧
      ∃ s, toPostfixText "x = 1".toList = .error (.rejected (.badToken s)) := by
  intro c
  have hshown : toPostfixText "3 (1 + x) * 2_0".toList = .ok "3 1 x + 2_0 *".toList := by
    decide +kernel
  have hopen : toPostfixText "(1".toList = .error (.rejected .unclosedLeft) := by decide +kernel
  refine ⟨hshown, ?_, hopen, ?_, ?_⟩
  · exact ((c.evaluate_eq_evaluatePostfixText _).1 _ hshown).1
  · exact ((c.evaluate_eq_evaluatePostfixText _).2.1 _ hopen).2 (by decide)
  · exact (c.evaluate_eq_evaluatePostfixText _).2.2 (by decide)

end Calculator

end LineCalc
