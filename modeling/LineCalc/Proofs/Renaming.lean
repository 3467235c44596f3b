import Mathlib.Algebra.Group.End
import Mathlib.Data.List.DropRight
import LineCalc.Proofs.Naming
import LineCalc.Proofs.Scanning
import LineCalc.Proofs.Verdicts

/-!
# Letters under other names

No letter is special.  A permutation of the letters renames the variables of lines and of an
environment, and every operation commutes with it, up to a whole session.

* On a line, the letters that are tokens of the expression are renamed, and the target of an
  assignment if it is a letter (`Renaming.line`).  A letter inside a longer token, as in `1e3`
  or `inf`, is no variable and stays.
* Renaming a line renames the texts of its tokens, one by one (`tokenTexts_expression`).  What
  a text is classified as, the conversion of tokens to postfix form and the values of variables
  follow.
* A rejection never names a variable, so that the outcomes are equal and not just alike
  (`evaluate_line`).
-/

namespace LineCalc

open Text

/-- A permutation of the letters. -/
abbrev Renaming := Equiv.Perm {c : Char // isLetter c = true}

namespace Renaming

variable (p : Renaming)

/-- A character under its new name.  What is no letter keeps its name. -/
def char (c : Char) : Char :=
  Equiv.Perm.ofSubtype p c

/-- A text under its new name, if it is the name of a variable. -/
def name (s : Text) : Text :=
  if isVariable s then s.map p.char else s

/-- A token with its variable renamed. -/
def token : Token → Token
  | .var s => .var (p.name s)
  | t => t

/-- The rest of an expression with its variables renamed.  It is read `inside` a token or not;
a letter is a token if it neither stands inside one nor has more of it behind it. -/
def scan (inside : Bool) : Text → Text
  | [] => []
  | c :: rest =>
    (if inside || rest.head?.any isTokenChar then c else p.char c) :: scan (isTokenChar c) rest

/-- An expression with its variables renamed. -/
def expression (s : Text) : Text :=
  p.scan false s

/-- What stands to the left of an assignment sign, renamed if it names a variable. -/
def target (left : Text) : Text :=
  if isVariable (Calculator.targetName left) then left.map p.char else left

/-- A line with its variables renamed.  A line with more than one sign has none. -/
def line (s : Text) : Text :=
  match cutAt isAssignmentSign s with
  | [expression] => p.expression expression
  | [left, expression] => p.target left ++ '=' :: p.expression expression
  | _ => s

/-- An environment with its variables renamed, in the same order. -/
def environment (env : Environment) : Environment :=
  ⟨env.entries.map fun entry => (p.char entry.1, entry.2)⟩

def calculator (c : Calculator) : Calculator :=
  ⟨p.environment c.environment, c.strict⟩

/-- A session whose variables are renamed, all else being equal. -/
def session (s : Session) : Session :=
  { s with calculator := p.calculator s.calculator }

/-! ## Characters -/

theorem char_of_not_isLetter {c : Char} (hc : isLetter c = false) : p.char c = c :=
  Equiv.Perm.ofSubtype_apply_of_not_mem p (by simp [hc])

@[simp] theorem isLetter_char (c : Char) : isLetter (p.char c) = isLetter c := by
  cases hc : isLetter c with
  | true =>
    rw [char, Equiv.Perm.ofSubtype_apply_of_mem p hc]
    exact (p ⟨c, hc⟩).2
  | false => rw [p.char_of_not_isLetter hc, hc]

theorem char_injective : Function.Injective p.char :=
  (Equiv.Perm.ofSubtype p).injective

/-- A class that holds of all letters or of none does not see the renaming. -/
theorem class_char {q : Char → Bool} {b : Bool} (hq : ∀ c, isLetter c = true → q c = b) (c : Char) :
    q (p.char c) = q c := by
  cases hc : isLetter c with
  | true => rw [hq c hc, hq _ (by rw [isLetter_char, hc])]
  | false => rw [p.char_of_not_isLetter hc]

theorem isBlank_char (c : Char) : isBlank (p.char c) = isBlank c :=
  p.class_char (fun _ hc => isBlank_eq_false_of_isLetter hc) c

theorem isLineEnd_char (c : Char) : isLineEnd (p.char c) = isLineEnd c := by
  have hletters (d : Char) (hd : isLetter d = true) : isLineEnd d = false := by
    rw [← Bool.not_eq_true]
    intro hend
    have hblank := isBlank_of_isNumeralBlank (isNumeralBlank_of_isLineEnd hend)
    rw [isBlank_eq_false_of_isLetter hd] at hblank
    cases hblank
  exact p.class_char hletters c

theorem isAssignmentSign_char (c : Char) : isAssignmentSign (p.char c) = isAssignmentSign c :=
  p.class_char (fun _ hc => beq_false_of_ne (ne_sign_of_isLetter hc)) c

theorem isTokenChar_char (c : Char) : isTokenChar (p.char c) = isTokenChar c :=
  p.class_char (fun _ hc => isTokenChar_of_isLetter hc) c

/-- What is no part of a longer token is no letter. -/
theorem char_of_not_isTokenChar {c : Char} (hc : isTokenChar c = false) : p.char c = c := by
  apply p.char_of_not_isLetter
  rw [← Bool.not_eq_true]
  intro hletter
  rw [isTokenChar_of_isLetter hletter] at hc
  cases hc

/-- The texts of a renamed expression belong to the same classes, character by character. -/
theorem map_scan {q : Char → Bool} (hq : ∀ c, q (p.char c) = q c) (inside : Bool) (s : Text) :
    (p.scan inside s).map q = s.map q := by
  induction s generalizing inside with
  | nil => rfl
  | cons c rest ih =>
    rw [scan, List.map_cons, List.map_cons, ih]
    split
    · rfl
    · rw [hq]

/-! ## Texts -/

theorem name_of_not_isVariable {s : Text} (hs : isVariable s = false) : p.name s = s := by
  rw [name, hs]
  rfl

@[simp] theorem name_nil : p.name [] = [] := rfl

@[simp] theorem name_singleton (c : Char) : p.name [c] = [p.char c] := by
  cases hc : isLetter c with
  | true => simp [name, isVariable, hc]
  | false =>
    have hname : isVariable [c] = false := hc
    rw [p.name_of_not_isVariable hname, p.char_of_not_isLetter hc]

/-- A text of two characters or more is no name. -/
theorem name_snoc {s : Text} (hs : s ≠ []) (c : Char) : p.name (s ++ [c]) = s ++ [c] := by
  match s with
  | [] => exact absurd rfl hs
  | [d] => rfl
  | d :: e :: s => rfl

theorem isVariable_name (s : Text) : isVariable (p.name s) = isVariable s := by
  match s with
  | [] => rfl
  | [c] => simp [isVariable]
  | c :: d :: rest => rfl

theorem closeToken_name (current : Text) (rest : List Text) :
    closeToken (p.name current) (rest.map p.name) = (closeToken current rest).map p.name := by
  match current with
  | [] => rfl
  | [c] => simp [closeToken]
  | c :: d :: current => rfl

/-- The next character of a token is renamed if there was none before it and there are no more. -/
theorem snoc_scan (current : Text) (c : Char) (more : Bool) :
    current ++ [if !current.isEmpty || more then c else p.char c] =
      if more then current ++ [c] else p.name (current ++ [c]) := by
  cases more with
  | true => simp
  | false =>
    cases current with
    | nil => simp
    | cons d current =>
      rw [p.name_snoc (List.cons_ne_nil d current)]
      rfl

/-- The token that is being read has its new name when no more of it follows. -/
theorem scanFrom_scan (current line : Text) :
    scanFrom (if line.head?.any isTokenChar then current else p.name current)
        (p.scan (!current.isEmpty) line) =
      (scanFrom current line).map p.name := by
  induction line generalizing current with
  | nil => exact p.closeToken_name current []
  | cons c rest ih =>
    rw [List.head?_cons, Option.any_some]
    cases hc : isTokenChar c with
    | false =>
      have hrest : scanFrom [] (p.scan false rest) = (scanFrom [] rest).map p.name := by
        have hnil := ih []
        rwa [name_nil, ite_self] at hnil
      have hscan : p.scan (!current.isEmpty) (c :: rest) = c :: p.scan false rest := by
        rw [scan, p.char_of_not_isTokenChar hc, ite_self, hc]
      rw [hscan, if_neg Bool.false_ne_true, scanFrom, scanFrom, hrest]
      split
      · rw [closeToken_name]
      · next hgap =>
        have hparen : isParen c = true := by simpa [isTokenChar, hgap] using hc
        have hname : p.name [c] = [c] := by
          rw [name_singleton, p.char_of_not_isTokenChar hc]
        rw [if_pos hparen, if_pos hparen, ← closeToken_name, List.map_cons, hname]
    | true =>
      have hlonger : (!(current ++ [c]).isEmpty) = true := by simp
      have hsnoc := ih (current ++ [c])
      rw [hlonger, ← p.snoc_scan] at hsnoc
      have hrenamed : isTokenChar
          (if !current.isEmpty || rest.head?.any isTokenChar then c else p.char c) = true := by
        split
        · exact hc
        · rw [isTokenChar_char, hc]
      rw [if_pos rfl, scan, hc, scanFrom_of_isTokenChar hrenamed, scanFrom_of_isTokenChar hc, hsnoc]

/-- Renaming an expression renames its tokens, one by one. -/
theorem tokenTexts_expression (s : Text) :
    tokenTexts (p.expression s) = (tokenTexts s).map p.name := by
  have hscan := p.scanFrom_scan [] s
  rw [name_nil, ite_self] at hscan
  rw [tokenTexts_eq_scanTexts, tokenTexts_eq_scanTexts, scanTexts, expression]
  exact hscan

/-! ## Tokens -/

/-- A text under its new name is classified as the token is. -/
theorem classify_name (s : Text) : classify (p.name s) = (classify s).map p.token := by
  cases hs : isVariable s with
  | true =>
    rw [classify, classify, isVariable_name, hs]
    rfl
  | false =>
    rw [p.name_of_not_isVariable hs]
    cases ht : classify s with
    | error r => rfl
    | ok t =>
      cases t with
      | var v =>
        obtain rfl : v = s := text_of_classify ht
        rw [Except.map, token, p.name_of_not_isVariable hs]
      | _ => rfl

theorem classifyAll_name (texts : List Text) :
    classifyAll (texts.map p.name) = (classifyAll texts).map (List.map p.token) := by
  induction texts with
  | nil => rfl
  | cons text texts ih =>
    rw [List.map_cons, classifyAll_cons, classifyAll_cons, ih, classify_name]
    cases classify text with
    | error r => rfl
    | ok t => cases classifyAll texts <;> rfl

/-- Renaming a line renames its tokens. -/
theorem lexLine_expression (s : Text) :
    lexLine (p.expression s) = (lexLine s).map (List.map p.token) := by
  rw [lexLine, lexLine, lex, lex, tokenTexts_expression, classifyAll_name]
  cases classifyAll (tokenTexts s) <;> rfl

/-! ## The postfix form -/

/-- A conversion with its variables renamed. -/
def conversion (s : Conversion) : Conversion :=
  ⟨s.stack.map p.token, s.emitted.map p.token⟩

theorem release_token (symbol : Text) (emitted stack : List Token) :
    Conversion.release symbol (emitted.map p.token) (stack.map p.token) =
      (Conversion.release symbol emitted stack).map p.conversion := by
  induction stack generalizing emitted with
  | nil => rfl
  | cons t rest ih =>
    cases t with
    | operator top =>
      simp only [List.map_cons, token, Conversion.release]
      cases operatorRank top with
      | error fault => rfl
      | ok topRank =>
        cases operatorRank symbol with
        | error fault => rfl
        | ok rank =>
          show (if rank ≤ topRank then _ else _) = Except.map _ (if rank ≤ topRank then _ else _)
          split
          · exact ih (.operator top :: emitted)
          · rfl
    | _ => rfl

theorem closeGroup_token (emitted stack : List Token) :
    Conversion.closeGroup (emitted.map p.token) (stack.map p.token) =
      (Conversion.closeGroup emitted stack).map p.conversion := by
  induction stack generalizing emitted with
  | nil => rfl
  | cons t rest ih =>
    cases t with
    | leftParen text => rfl
    | _ => exact ih (_ :: emitted)

theorem releaseAll_token (emitted stack : List Token) :
    Conversion.releaseAll (emitted.map p.token) (stack.map p.token) =
      (Conversion.releaseAll emitted stack).map (List.map p.token) := by
  induction stack generalizing emitted with
  | nil => rfl
  | cons t rest ih =>
    cases t with
    | leftParen text => rfl
    | _ => exact ih (_ :: emitted)

theorem step_conversion (s : Conversion) (t : Token) :
    (p.conversion s).step (p.token t) = (s.step t).map p.conversion := by
  cases t with
  | operator symbol =>
    show Conversion.step _ (.operator symbol) = _
    rw [Conversion.step, Conversion.step, conversion, release_token]
    cases Conversion.release symbol s.emitted s.stack <;> rfl
  | rightParen text => exact p.closeGroup_token s.emitted s.stack
  | _ => rfl

theorem run_conversion (s : Conversion) (ts : List Token) :
    (p.conversion s).run (ts.map p.token) = (s.run ts).map p.conversion := by
  induction ts generalizing s with
  | nil => rfl
  | cons t ts ih =>
    rw [Conversion.run, Conversion.run, List.map_cons, List.foldlM_cons, List.foldlM_cons,
      step_conversion]
    cases s.step t with
    | error fault => rfl
    | ok next => exact ih next

theorem toPostfix_token (ts : List Token) :
    toPostfix (ts.map p.token) = (toPostfix ts).map (List.map p.token) := by
  have hrun := p.run_conversion Conversion.start ts
  have hstart : p.conversion Conversion.start = Conversion.start := rfl
  rw [hstart] at hrun
  rw [toPostfix, toPostfix, hrun]
  cases Conversion.start.run ts with
  | error fault => rfl
  | ok s =>
    show (p.conversion s).finish = s.finish.map (List.map p.token)
    rw [Conversion.finish, Conversion.finish, conversion, releaseAll_token]
    cases Conversion.releaseAll s.emitted s.stack with
    | error fault => rfl
    | ok emitted => exact congrArg Except.ok List.map_reverse.symm

theorem postfixOfLine_expression (s : Text) :
    postfixOfLine (p.expression s) = (postfixOfLine s).map (List.map p.token) := by
  rw [postfixOfLine, postfixOfLine, lexLine_expression]
  cases lexLine s with
  | error fault => rfl
  | ok ts => exact p.toPostfix_token ts

/-! ## Variables -/

theorem get_name (env : Environment) (s : Text) :
    (p.environment env).get (p.name s) = env.get s := by
  match s with
  | [] => rfl
  | [c] =>
    have hvalue : (p.environment env).value? (p.char c) = env.value? c := by
      rw [Environment.value?, Environment.value?, environment]
      induction env.entries with
      | nil => rfl
      | cons entry rest ih =>
        have hkey : (p.char c == p.char entry.1) = (c == entry.1) := by
          rw [Bool.beq_eq_decide_eq, Bool.beq_eq_decide_eq]
          exact decide_eq_decide.2 p.char_injective.eq_iff
        rw [List.map_cons, List.lookup_cons, List.lookup_cons, hkey, ih]
    rw [name_singleton, Environment.get, Environment.get, hvalue]
  | c :: d :: s => rfl

theorem set_char (env : Environment) (c : Char) (x : Float) :
    (p.environment env).set (p.char c) x = p.environment (env.set c x) := by
  rw [Environment.set, Environment.set, environment, environment]
  congr 1
  induction env.entries with
  | nil => rfl
  | cons entry rest ih =>
    simp only [List.map_cons, Environment.setEntry, p.char_injective.eq_iff, ih]
    split <;> rfl

theorem run_token (env : Environment) (stack : List Float) (ps : List Token) :
    Evaluation.run (p.environment env) stack (ps.map p.token) = Evaluation.run env stack ps := by
  have hstep (stack : List Float) (t : Token) :
      Evaluation.step (p.environment env) stack (p.token t) = Evaluation.step env stack t := by
    cases t with
    | var s => exact congrArg (fun x => Except.ok (x :: stack)) (p.get_name env s)
    | _ => rfl
  rw [Evaluation.run, Evaluation.run, List.foldlM_map]
  simp only [hstep]

theorem infixValue_expression (c : Calculator) (s : Text) :
    (p.calculator c).infixValue (p.expression s) = c.infixValue s := by
  cases hline : postfixOfLine s with
  | error fault =>
    have hrenamed : postfixOfLine (p.expression s) = .error fault := by
      rw [postfixOfLine_expression, hline]
      rfl
    rw [Calculator.infixValue_of_postfixOfLine_error _ hline,
      Calculator.infixValue_of_postfixOfLine_error _ hrenamed]
  | ok ps =>
    have hrenamed : postfixOfLine (p.expression s) = .ok (ps.map p.token) := by
      rw [postfixOfLine_expression, hline]
      rfl
    rw [Calculator.infixValue_of_postfixOfLine _ hline,
      Calculator.infixValue_of_postfixOfLine _ hrenamed, evaluatePostfix, evaluatePostfix,
      calculator, run_token]

/-! ## Lines -/

theorem targetName_target (left : Text) :
    Calculator.targetName (p.target left) = p.name (Calculator.targetName left) := by
  have hmap : Calculator.targetName (left.map p.char) = (Calculator.targetName left).map p.char := by
    have hblank : isBlank ∘ p.char = isBlank := funext p.isBlank_char
    rw [Calculator.targetName, Calculator.targetName, trim, trim, trimEnd, trimEnd,
      List.dropWhile_map, hblank, ← List.map_reverse, List.dropWhile_map, hblank, List.map_reverse]
  rw [target, name]
  split
  · exact hmap
  · rfl

theorem assign_target (c : Calculator) (left : Text) (x : Float) :
    (p.calculator c).assign (p.target left) x =
      ((c.assign left x).1, p.calculator (c.assign left x).2) := by
  have hname := p.targetName_target left
  cases hleft : isVariable (Calculator.targetName left) with
  | true =>
    obtain ⟨letter, hletter, hc⟩ := isVariable_iff.1 hleft
    rw [hletter, name_singleton] at hname
    rw [Calculator.assign_letter _ hname (by rw [isLetter_char, hc]),
      Calculator.assign_letter _ hletter hc]
    show (_, _) = (_, p.calculator ⟨c.environment.set letter x, c.strict⟩)
    rw [calculator, calculator, ← set_char]
  | false =>
    rw [p.name_of_not_isVariable hleft] at hname
    rw [Calculator.assign_eq_error _ hleft, Calculator.assign_eq_error _ (by rw [hname, hleft]),
      hname]

theorem map_target {q : Char → Bool} (hq : ∀ c, q (p.char c) = q c) (left : Text) :
    (p.target left).map q = left.map q := by
  rw [target]
  split
  · rw [List.map_map]
    exact List.map_congr_left fun c _ => hq c
  · rfl

theorem line_of_not_mem {s : Text} (hs : '=' ∉ s) : p.line s = p.expression s := by
  rw [line, cutAt_eq_singleton (Calculator.isAssignmentSign_eq_false hs)]

theorem line_assignment {left right : Text} (hleft : '=' ∉ left) (hright : '=' ∉ right) :
    p.line (left ++ '=' :: right) = p.target left ++ '=' :: p.expression right := by
  rw [line, cutAt_append_cons (Calculator.isAssignmentSign_eq_false hleft) rfl,
    cutAt_eq_singleton (Calculator.isAssignmentSign_eq_false hright)]

theorem line_of_two_le {s : Text} (h : 2 ≤ s.count '=') : p.line s = s := by
  obtain ⟨first, second, third, rest, hcut⟩ := Calculator.cutAt_of_two_le h
  rw [line, hcut]

theorem map_line {q : Char → Bool} (hq : ∀ c, q (p.char c) = q c) (s : Text) :
    (p.line s).map q = s.map q := by
  rcases Calculator.assignmentSign_cases s with hnone | ⟨left, right, rfl, hleft, hright⟩ | htwo
  · rw [p.line_of_not_mem hnone]
    exact p.map_scan hq false s
  · rw [p.line_assignment hleft hright, List.map_append, List.map_cons, p.map_target hq, expression,
      p.map_scan hq, List.map_append, List.map_cons]
  · rw [p.line_of_two_le htwo]

private theorem not_mem_of_map_eq {s t : Text}
    (h : t.map isAssignmentSign = s.map isAssignmentSign) (hs : '=' ∉ s) : '=' ∉ t := by
  intro ht
  have hmem : true ∈ t.map isAssignmentSign := List.mem_map.2 ⟨'=', ht, rfl⟩
  rw [h] at hmem
  obtain ⟨c, hc, hsign⟩ := List.mem_map.1 hmem
  obtain rfl : c = '=' := by simpa [isAssignmentSign] using hsign
  exact hs hc

/-- A renamed line has the same outcome, and what it assigns is renamed. -/
theorem evaluate_line (c : Calculator) (s : Text) :
    (p.calculator c).evaluate (p.line s) =
      ((c.evaluate s).1, p.calculator (c.evaluate s).2) := by
  have hexpression (s : Text) : '=' ∉ s → '=' ∉ p.expression s :=
    not_mem_of_map_eq (p.map_scan p.isAssignmentSign_char false s)
  rcases Calculator.assignmentSign_cases s with hnone | ⟨left, right, rfl, hleft, hright⟩ | htwo
  · rw [p.line_of_not_mem hnone, Calculator.evaluate_of_not_mem _ (hexpression s hnone),
      Calculator.evaluate_of_not_mem _ hnone, infixValue_expression]
  · have htarget := not_mem_of_map_eq (p.map_target p.isAssignmentSign_char left) hleft
    rw [p.line_assignment hleft hright,
      Calculator.evaluate_assignment _ htarget (hexpression right hright),
      Calculator.evaluate_assignment _ hleft hright, infixValue_expression]
    cases c.infixValue right with
    | error fault => rfl
    | ok x => exact p.assign_target c left x
  · rw [p.line_of_two_le htwo, Calculator.evaluate_of_two_le _ htwo,
      Calculator.evaluate_of_two_le _ htwo]

/-- Renaming leaves the end of a line where it is. -/
theorem lineText_line (s : Text) :
    Session.lineText (p.line (Session.lineText s)) = p.line (Session.lineText s) := by
  refine List.rdropWhile_eq_self_iff.2 fun hne hend => ?_
  have hlast : ((p.line (Session.lineText s)).map isLineEnd).getLast? = some true := by
    rw [List.getLast?_map, List.getLast?_eq_some_getLast hne, Option.map_some, hend]
  rw [p.map_line p.isLineEnd_char, List.getLast?_map] at hlast
  obtain ⟨c, hc, hcend⟩ := Option.map_eq_some_iff.1 hlast
  obtain ⟨hs, rfl⟩ := List.mem_getLast?_eq_getLast hc
  exact List.rdropWhile_last_not isLineEnd s hs hcend

/-! ## Sessions -/

/-- Every line under its new name, without its end. -/
def lines (texts : List Text) : List Text :=
  texts.map fun text => p.line (Session.lineText text)

theorem processLine_line (s : Session) (text : Text) :
    (p.session s).processLine (p.line (Session.lineText text)) =
      ((s.processLine text).1, p.session (s.processLine text).2) := by
  have hevaluate : (p.session s).calculator.evaluate (p.line (Session.lineText text)) = _ :=
    p.evaluate_line s.calculator (Session.lineText text)
  rw [Session.processLine, Session.processLine, lineText_line, hevaluate]
  rcases s.calculator.evaluate (Session.lineText text) with ⟨fault | x, c⟩ <;> rfl

theorem processLines_lines (s : Session) (texts : List Text) :
    (p.session s).processLines (p.lines texts) =
      ((s.processLines texts).1, p.session (s.processLines texts).2) := by
  induction texts generalizing s with
  | nil => rfl
  | cons text rest ih =>
    cases hs : s.halted with
    | true =>
      have hrenamed : (p.session s).halted = true := hs
      rw [Session.processLines_of_halted hs, Session.processLines_of_halted hrenamed]
    | false =>
      have hrenamed : (p.session s).halted = false := hs
      have hcons : p.lines (text :: rest) = p.line (Session.lineText text) :: p.lines rest := rfl
      rw [hcons, Session.processLines_cons hs, Session.processLines_cons hrenamed,
        processLine_line, ih]

end Renaming

/-- A session on renamed lines that starts from the renamed variables has the outputs, the
counters and the halt of the session on the lines themselves, and ends with its variables
renamed. -/
theorem Session.no_letter_special (p : Renaming) (settings : Settings) (env : Environment)
    (lines : List Text) :
    let original := (start settings env).processLines lines
    let renamed := (start settings (p.environment env)).processLines (p.lines lines)
    renamed.1 = original.1 ∧
      renamed.2.linesProcessed = original.2.linesProcessed ∧
      renamed.2.errors = original.2.errors ∧
      renamed.2.halted = original.2.halted ∧
      renamed.2.calculator.environment = p.environment original.2.calculator.environment ∧
      (start settings (p.environment env)).run (p.lines lines) =
        (((start settings env).run lines).1, p.session ((start settings env).run lines).2) := by
  intro original renamed
  have hrenamed : renamed = (original.1, p.session original.2) :=
    p.processLines_lines (start settings env) lines
  have hrun : (start settings (p.environment env)).run (p.lines lines) =
      (((start settings env).run lines).1, p.session ((start settings env).run lines).2) := by
    rw [run_eq_processLines, run_eq_processLines]
    exact congrArg (fun outcome => (written outcome.1, outcome.2)) hrenamed
  rw [hrenamed]
  exact ⟨rfl, rfl, rfl, rfl, rfl, hrun⟩

/-- The letter `e` is renamed where it is a variable, and stays where it is an exponent. -/
example :
    let p : Renaming := Equiv.swap ⟨'e', rfl⟩ ⟨'x', rfl⟩
    p.line "e = 1e3 + (e - x) * inf".toList = "x = 1e3 + (x - e) * inf".toList := by
  decide +kernel

end LineCalc
