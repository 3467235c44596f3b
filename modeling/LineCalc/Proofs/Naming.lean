import LineCalc.Proofs.Grouping
import LineCalc.Proofs.PostfixText

/-!
# Naming a subexpression

A subexpression in parentheses can be given a name first.  The line with the group and the
line with the name have the same tokens around the group and around the name, so what these
are converted to is the same (`postfixOfLine_around`), whether or not they are well formed.
What stands between is the postfix form of an expression in one line and a variable in the
other.  Both put the same value on the stack, and nothing else reads the variable.
-/

namespace LineCalc

open Text Conversion

/-! ## What stands around an operand in a line -/

/-- What is emitted before and behind tokens that are read as one operand, when the text
`pre` stands before them and `post` behind them. -/
def lineAround (pre post : Text) : Except Fault (List Token × List Token) := do
  let before ← lexLine pre
  let behind ← lexLine post
  around before behind

theorem postfixOfLine_around {line pre post : Text} {texts : List Text} {ts ps : List Token}
    (htexts : tokenTexts line = tokenTexts pre ++ texts ++ tokenTexts post)
    (hts : classifyAll texts = .ok ts) (hps : Reads ts ps) :
    postfixOfLine line =
      (lineAround pre post).map fun (before, behind) => before ++ ps ++ behind := by
  rw [postfixOfLine, lexLine, lex, htexts, classifyAll_append, classifyAll_append, hts,
    lineAround, lexLine, lexLine, lex, lex]
  cases classifyAll (tokenTexts pre) with
  | error reason => rfl
  | ok before =>
    cases classifyAll (tokenTexts post) with
    | error reason => rfl
    | ok behind => exact hps.toPostfix_eq before behind

/-- What is emitted around an operand has the texts that stand around it. -/
theorem mem_of_lineAround {pre post : Text} {before behind : List Token}
    (h : lineAround pre post = .ok (before, behind)) :
    ∀ t ∈ before ++ behind, t.text ∈ tokenTexts pre ∨ t.text ∈ tokenTexts post := by
  obtain ⟨ts, hpre, h⟩ := exists_of_bind_eq_ok h
  obtain ⟨us, hpost, h⟩ := exists_of_bind_eq_ok h
  intro t ht
  rw [← (map_text_of_classifyAll (lex_of_lexLine hpre)).1,
    ← (map_text_of_classifyAll (lex_of_lexLine hpost)).1]
  rcases List.mem_append.1 (mem_of_around h t ht) with hts | hus
  · exact .inl (List.mem_map_of_mem hts)
  · exact .inr (List.mem_map_of_mem hus)

theorem tokenTexts_group (pre inner post : Text) :
    tokenTexts (pre ++ ['('] ++ inner ++ [')'] ++ post) =
      tokenTexts pre ++ (['('] :: tokenTexts inner ++ [[')']]) ++ tokenTexts post := by
  have hline : pre ++ ['('] ++ inner ++ [')'] ++ post = pre ++ '(' :: (inner ++ ')' :: post) := by
    simp
  rw [hline, tokenTexts_paren rfl, tokenTexts_paren rfl]
  simp

theorem classifyAll_group {inner : Text} {ts : List Token} (hlex : lex inner = .ok ts) :
    classifyAll (['('] :: tokenTexts inner ++ [[')']]) =
      .ok (.leftParen ['('] :: ts ++ [.rightParen [')']]) := by
  rw [lex] at hlex
  rw [classifyAll_append, classifyAll_cons, hlex]
  rfl

/-! ## A name for an expression -/

/-- A variable can stand for an expression that has its value. -/
theorem evaluatePostfix_replace {env env' : Environment} {name : Text} {e : Expression}
    {before behind : List Token} (hvalue : env'.get name = e.value env)
    (hsame : ∀ other, Token.var other ∈ before ++ behind → env.get other = env'.get other)
    (strict : Bool) :
    evaluatePostfix env strict (before ++ e.postorder ++ behind) =
      evaluatePostfix env' strict (before ++ [.var name] ++ behind) := by
  have hbefore : ∀ other, Token.var other ∈ before → env.get other = env'.get other :=
    fun other hother => hsame other (List.mem_append_left _ hother)
  have hbehind : ∀ other, Token.var other ∈ behind → env.get other = env'.get other :=
    fun other hother => hsame other (List.mem_append_right _ hother)
  have hrun (stack : List Float) : Evaluation.run env stack (e.postorder ++ behind) =
      Evaluation.run env' stack ([.var name] ++ behind) := by
    rw [Evaluation.run_postorder, Evaluation.run_congr hbehind, ← hvalue]
    rfl
  have hlines : Evaluation.run env [] (before ++ (e.postorder ++ behind)) =
      Evaluation.run env' [] (before ++ ([.var name] ++ behind)) := by
    rw [Evaluation.run_append, Evaluation.run_append, Evaluation.run_congr hbefore]
    cases Evaluation.run env' [] before with
    | error fault => rfl
    | ok stack => exact hrun stack
  rw [List.append_assoc, List.append_assoc, evaluatePostfix, evaluatePostfix, hlines]

theorem ne_sign_of_isLetter {x : Char} (hx : isLetter x = true) : x ≠ '=' := by
  rintro rfl
  cases hx

theorem isBlank_eq_false_of_isLetter {x : Char} (hx : isLetter x = true) : isBlank x = false := by
  have hrange : 97 ≤ x.toNat ∧ x.toNat ≤ 122 := by
    simp only [isLetter, Bool.and_eq_true, decide_eq_true_eq] at hx
    exact hx
  simp [isBlank, inRanges, blankRanges]
  omega

theorem isTokenChar_of_isLetter {x : Char} (hx : isLetter x = true) : isTokenChar x = true := by
  rw [isTokenChar_iff, ← Bool.not_eq_true, ← Bool.not_eq_true]
  constructor
  · intro hgap
    have hblank := isBlank_of_isNumeralBlank (isNumeralBlank_of_isGap hgap)
    rw [isBlank_eq_false_of_isLetter hx] at hblank
    cases hblank
  · intro hparen
    simp only [isParen, Bool.or_eq_true, beq_iff_eq] at hparen
    rcases hparen with rfl | rfl <;> cases hx

theorem tokenTexts_letter {x : Char} (hx : isLetter x = true) (pre post : Text) :
    tokenTexts (pre ++ [' '] ++ [x] ++ [' '] ++ post) =
      tokenTexts pre ++ [[x]] ++ tokenTexts post := by
  have hline : pre ++ [' '] ++ [x] ++ [' '] ++ post = pre ++ ' ' :: ([x] ++ ' ' :: post) := by
    simp
  have hword : tokenTexts [x] = [[x]] :=
    tokenTexts_word (List.cons_ne_nil x []) (by simpa using isTokenChar_of_isLetter hx)
  rw [hline, tokenTexts_gap rfl, tokenTexts_gap rfl, hword, List.append_assoc]

theorem classifyAll_letter {x : Char} (hx : isLetter x = true) :
    classifyAll [[x]] = .ok [.var [x]] := by
  have hclassify : classify [x] = .ok (.var [x]) := if_pos hx
  rw [classifyAll_cons, hclassify]
  rfl

namespace Calculator

theorem targetName_letter {x : Char} (hx : isLetter x = true) : targetName [x, ' '] = [x] := by
  have hspace : isBlank ' ' = true := by decide
  simp [targetName, trim, trimEnd, isBlank_eq_false_of_isLetter hx, hspace]

/-- The line that names an expression gives its value to the name. -/
theorem evaluate_definition (c : Calculator) {e : Text} {x : Char} {v : Float} (he : '=' ∉ e)
    (hx : isLetter x = true) (hvalue : c.infixValue e = .ok v) :
    c.evaluate ([x] ++ [' ', '=', ' '] ++ e) =
      (.ok v, ⟨c.environment.set x v, c.strict⟩) := by
  have hleft : '=' ∉ [x, ' '] := by simpa using (ne_sign_of_isLetter hx).symm
  have htexts : tokenTexts (' ' :: e) = tokenTexts e := tokenTexts_gap rfl [] e
  have hspaced : c.infixValue (' ' :: e) = .ok v := by
    rw [← hvalue, infixValue, infixValue, postfixOfLine, postfixOfLine, lexLine, lexLine, lex,
      lex, htexts]
  show c.evaluate ([x, ' '] ++ '=' :: ' ' :: e) = _
  rw [c.evaluate_assignment hleft (by simpa using he), hspaced]
  exact c.assign_letter (targetName_letter hx) hx v

/-- An expression in parentheses can be given a name first, by a letter that is used
nowhere around it.  What stands around it need not be well formed. -/
theorem evaluate_named {pre e post : Text} {x : Char} {env : Environment} {v : Float}
    (hpre : '=' ∉ pre) (he : '=' ∉ e) (hpost : '=' ∉ post) (hx : isLetter x = true)
    (hxpre : [x] ∉ tokenTexts pre) (hxpost : [x] ∉ tokenTexts post)
    (hvalue : ((⟨env, true⟩ : Calculator).evaluate e).1 = .ok v) :
    ∃ named, (⟨env, true⟩ : Calculator).evaluate ([x] ++ [' ', '=', ' '] ++ e) = (.ok v, named) ∧
      ((⟨env, true⟩ : Calculator).evaluate (pre ++ ['('] ++ e ++ [')'] ++ post)).1 =
        (named.evaluate (pre ++ [' '] ++ [x] ++ [' '] ++ post)).1 := by
  rw [evaluate_of_not_mem _ he] at hvalue
  obtain ⟨ts, tree, hlex, hconverted, htree⟩ := infixValue_strict_eq_ok.1 hvalue
  have hgroup := postfixOfLine_around (tokenTexts_group pre e post) (classifyAll_group hlex)
    (reads_group hconverted _ _)
  have hname := postfixOfLine_around (tokenTexts_letter hx pre post) (classifyAll_letter hx)
    (reads_operand rfl)
  refine ⟨_, evaluate_definition _ he hx hvalue, ?_⟩
  rw [evaluate_of_not_mem _ (by simp [hpre, he, hpost]),
    evaluate_of_not_mem _ (by simp [hpre, (ne_sign_of_isLetter hx).symm, hpost])]
  cases haround : lineAround pre post with
  | error fault =>
    rw [haround] at hgroup hname
    rw [infixValue_of_postfixOfLine_error _ hgroup, infixValue_of_postfixOfLine_error _ hname]
  | ok emitted =>
    obtain ⟨before, behind⟩ := emitted
    rw [haround] at hgroup hname
    rw [infixValue_of_postfixOfLine _ hgroup, infixValue_of_postfixOfLine _ hname]
    refine evaluatePostfix_replace ?_ (fun other hother => ?_) true
    · rw [Environment.get_set, if_pos rfl, htree]
    · have hfresh : other ≠ [x] := by
        rintro rfl
        exact (mem_of_lineAround haround _ hother).elim hxpre hxpost
      rw [Environment.get_set, if_neg hfresh]

/-- A group in a line that is not well formed: the operator behind it has no right operand. -/
theorem evaluate_named_malformed :
    let c : Calculator := ⟨⟨[('a', 4)]⟩, true⟩
    ∃ named, c.evaluate (['b'] ++ [' ', '=', ' '] ++ "a - 1".toList) = (.ok 3, named) ∧
      (c.evaluate ("2 * ".toList ++ ['('] ++ "a - 1".toList ++ [')'] ++ "/".toList)).1 =
        (named.evaluate ("2 * ".toList ++ [' '] ++ ['b'] ++ [' '] ++ "/".toList)).1 := by
  exact evaluate_named (by decide) (by decide) (by decide) (by decide) (by decide) (by decide)
    (by decide +kernel)

end Calculator

end LineCalc
