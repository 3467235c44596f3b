import Mathlib.Data.List.Forall2
import Mathlib.Logic.Relation
import LineCalc.Proofs.Naming
import LineCalc.Session

/-!
# Spaces and tabs between tokens

A line is evaluated by the tokens of its parts between the assignment signs (`tokenParts`), and
by nothing else of it.  Two lines with the same tokens in every part have the same effect; only
a rejected target is quoted as it is written (`sameEffect_of_tokenParts`).

* What stands to the left of a sign is trimmed by another notion of blank than the one that
  separates tokens.  It is a letter if nothing but this letter is left of it without its blanks
  (`trim_eq_singleton_iff`), and its tokens tell this, since they leave out blanks only
  (`filter_tokenTexts`).
* `Loose left right` holds of the places of a line at which gaps separate nothing: at its ends,
  and next to a gap, a parenthesis or an assignment sign.  Gaps at such a place leave the tokens
  of every part as they are (`Widened.tokenParts_eq`).
* A session takes line ends off a line first, however many there are
  (`processLine_append_ends`).
-/

namespace LineCalc

open Text

namespace Text

variable {p : Char → Bool}

/-! ## The parts of two pieces of a text -/

theorem cutAt_cons_true {c : Char} (hc : p c = true) (s : Text) :
    cutAt p (c :: s) = [] :: cutAt p s :=
  cutAt_append_cons (List.forall_mem_nil _) hc s

theorem cutAt_cons_false {c : Char} (hc : p c = false) {s part : Text} {parts : List Text}
    (hs : cutAt p s = part :: parts) : cutAt p (c :: s) = (c :: part) :: parts := by
  rw [cutAt, hs]
  simp [hc]

/-- The last part of the first piece and the first part of the second one are one part. -/
theorem cutAt_append_parts {left right last first : Text} {before after : List Text}
    (hleft : cutAt p left = before ++ [last]) (hright : cutAt p right = first :: after) :
    cutAt p (left ++ right) = before ++ (last ++ first) :: after := by
  induction left generalizing before last with
  | nil =>
    have hlast : [] ++ [[]] = before ++ [last] := hleft
    obtain ⟨rfl, rfl⟩ := List.append_singleton_inj.1 hlast
    exact hright
  | cons c left ih =>
    cases hc : p c with
    | true =>
      rw [cutAt_cons_true hc] at hleft
      cases before with
      | nil =>
        have hnone : cutAt p left = [] := (List.cons.inj hleft).2
        exact absurd hnone (cutAt_ne_nil p left)
      | cons part before =>
        obtain ⟨rfl, hrest⟩ := List.cons.inj hleft
        rw [List.cons_append, cutAt_cons_true hc, ih hrest]
        rfl
    | false =>
      obtain ⟨part, parts, hparts⟩ := List.exists_cons_of_ne_nil (cutAt_ne_nil p left)
      rw [cutAt_cons_false hc hparts] at hleft
      cases before with
      | nil =>
        obtain ⟨rfl, rfl⟩ := List.cons.inj hleft
        have hone : cutAt p left = [] ++ [part] := hparts
        exact cutAt_cons_false hc (ih hone)
      | cons part' before =>
        obtain ⟨rfl, rfl⟩ := List.cons.inj hleft
        have hmore : cutAt p left = part :: before ++ [last] := hparts
        exact cutAt_cons_false hc (ih hmore)

/-- What the first part begins with is what the text begins with. -/
theorem head?_of_cutAt {s first : Text} {after : List Text} (h : cutAt p s = first :: after)
    {c : Char} (hc : c ∈ first.head?) : c ∈ s.head? ∧ p c = false := by
  cases s with
  | nil =>
    obtain ⟨rfl, -⟩ := List.cons.inj h
    cases hc
  | cons d s =>
    cases hd : p d with
    | true =>
      rw [cutAt_cons_true hd] at h
      obtain ⟨rfl, -⟩ := List.cons.inj h
      cases hc
    | false =>
      obtain ⟨part, parts, hparts⟩ := List.exists_cons_of_ne_nil (cutAt_ne_nil p s)
      rw [cutAt_cons_false hd hparts] at h
      obtain ⟨rfl, -⟩ := List.cons.inj h
      obtain rfl : d = c := Option.some.inj hc
      exact ⟨rfl, hd⟩

theorem exists_cutAt_eq_append (p : Char → Bool) (s : Text) :
    ∃ before last, cutAt p s = before ++ [last] := by
  rcases List.eq_nil_or_concat (cutAt p s) with hnone | ⟨before, last, hparts⟩
  · exact absurd hnone (cutAt_ne_nil p s)
  · exact ⟨before, last, by rw [hparts, List.concat_eq_append]⟩

/-- What the last part ends with is what the text ends with. -/
theorem getLast?_of_cutAt {s last : Text} {before : List Text} (h : cutAt p s = before ++ [last])
    {c : Char} (hc : c ∈ last.getLast?) : c ∈ s.getLast? ∧ p c = false := by
  rcases List.eq_nil_or_concat s with rfl | ⟨s, d, rfl⟩
  · have hlast : [] ++ [[]] = before ++ [last] := h
    obtain ⟨-, rfl⟩ := List.append_singleton_inj.1 hlast
    cases hc
  · rw [List.concat_eq_append] at h ⊢
    cases hd : p d with
    | true =>
      rw [cutAt_append hd] at h
      have hlast : cutAt p s ++ [[]] = before ++ [last] := h
      obtain ⟨-, rfl⟩ := List.append_singleton_inj.1 hlast
      cases hc
    | false =>
      obtain ⟨before', last', hparts⟩ := exists_cutAt_eq_append p s
      have hone : cutAt p [d] = [[d]] := cutAt_eq_singleton (by simpa using hd)
      rw [cutAt_append_parts hparts hone] at h
      obtain ⟨-, rfl⟩ := List.append_singleton_inj.1 h
      rw [List.getLast?_concat] at hc ⊢
      obtain rfl : d = c := Option.some.inj hc
      exact ⟨rfl, hd⟩

/-! ## Trimming -/

theorem trimEnd_append {ends : Text} (hends : ∀ c ∈ ends, p c = true) (s : Text) :
    trimEnd p (s ++ ends) = trimEnd p s := by
  have hreverse : ∀ c ∈ ends.reverse, p c = true := fun c hc => hends c (List.mem_reverse.1 hc)
  rw [trimEnd, List.reverse_append, List.dropWhile_append_of_pos hreverse, trimEnd]

theorem filter_dropWhile (p : Char → Bool) (s : Text) :
    (s.dropWhile p).filter (fun c => !p c) = s.filter fun c => !p c := by
  induction s with
  | nil => rfl
  | cons c s ih =>
    cases hc : p c with
    | true => rw [List.dropWhile_cons_of_pos hc, ih, List.filter_cons_of_neg (by simp [hc])]
    | false => rw [List.dropWhile_cons_of_neg (by simp [hc])]

theorem filter_trim (p : Char → Bool) (s : Text) :
    (trim p s).filter (fun c => !p c) = s.filter fun c => !p c := by
  rw [trim, trimEnd, List.filter_reverse, filter_dropWhile, List.filter_reverse,
    List.reverse_reverse, filter_dropWhile]

/-- A text is trimmed to one symbol if no other symbol in it is to be kept. -/
theorem trim_eq_singleton_iff {c : Char} (hc : p c = false) {s : Text} :
    trim p s = [c] ↔ s.filter (fun d => !p d) = [c] := by
  constructor
  · intro h
    rw [← filter_trim, h]
    simp [hc]
  · intro h
    obtain ⟨before, after, rfl, hbefore, -, hafter⟩ := List.filter_eq_cons_iff.1 h
    have hbefore : ∀ d ∈ before, p d = true := fun d hd => by simpa using hbefore d hd
    have hafter : ∀ d ∈ after, p d = true := by simpa using List.filter_eq_nil_iff.1 hafter
    have hone : trimEnd p [c] = [c] := by simp [trimEnd, hc]
    rw [trim, List.dropWhile_append_of_pos hbefore, List.dropWhile_cons_of_neg (by simp [hc])]
    exact (trimEnd_append hafter [c]).trans hone

end Text

/-! ## The tokens of the parts of a line -/

/-- The texts of the tokens of each part of a line.  There is one part more than there are
assignment signs (`Text.length_cutAt`). -/
def tokenParts (line : Text) : List (List Text) :=
  (cutAt isAssignmentSign line).map tokenTexts

theorem isBlank_of_isGap {c : Char} (h : isGap c = true) : isBlank c = true :=
  isBlank_of_isNumeralBlank (isNumeralBlank_of_isGap h)

/-- The tokens of a text are the text without its blanks, if blanks in them do not count. -/
theorem filter_tokenTexts (s : Text) :
    (tokenTexts s).flatten.filter (fun c => !isBlank c) = s.filter fun c => !isBlank c := by
  rw [flatten_tokenTexts, List.filter_filter]
  refine List.filter_congr fun c _ => ?_
  cases hgap : isGap c with
  | true => simp [isBlank_of_isGap hgap]
  | false => simp

/-! ## What a line does -/

namespace Calculator

/-- The effects of two lines on a calculator are the same: one value and one calculator after
them, or rejections that leave the calculator as it is.  They break one rule; where this is not
the rule for targets, they are reported in the same way. -/
inductive SameEffect (c : Calculator) :
    Except Fault Float × Calculator → Except Fault Float × Calculator → Prop where
  | value (x : Float) (after : Calculator) : SameEffect c (.ok x, after) (.ok x, after)
  | rejected {r r' : Rejection} (hrule : r.rule = r'.rule)
      (hreport : r.rule ≠ .badTarget → r.report = r'.report) :
      SameEffect c (.error (.rejected r), c) (.error (.rejected r'), c)

theorem SameEffect.refl_rejected (c : Calculator) (r : Rejection) :
    c.SameEffect (.error (.rejected r), c) (.error (.rejected r), c) :=
  .rejected rfl fun _ => rfl

variable {c : Calculator}

theorem infixValue_of_tokenTexts {s s' : Text} (h : tokenTexts s = tokenTexts s') :
    c.infixValue s = c.infixValue s' := by
  rw [infixValue, infixValue, postfixOfLine, postfixOfLine, lexLine, lexLine, lex, lex, h]

/-- The tokens to the left of a sign tell which letter stands there, if it is one. -/
theorem targetName_eq_letter {left left' : Text} (h : tokenTexts left = tokenTexts left')
    {letter : Char} (hletter : isLetter letter = true) (hname : targetName left = [letter]) :
    targetName left' = [letter] := by
  have hblank : isBlank letter = false := isBlank_eq_false_of_isLetter hletter
  rw [targetName, trim_eq_singleton_iff hblank, ← filter_tokenTexts] at hname ⊢
  rwa [← h]

theorem sameEffect_assign {left left' : Text} (h : tokenTexts left = tokenTexts left') (x : Float) :
    c.SameEffect (c.assign left x) (c.assign left' x) := by
  by_cases hname : isVariable (targetName left) = true
  · obtain ⟨letter, hname, hletter⟩ := isVariable_iff.1 hname
    have hname' : targetName left' = [letter] := targetName_eq_letter h hletter hname
    rw [c.assign_letter hname hletter, c.assign_letter hname' hletter]
    exact .value x _
  · have hname' : ¬ isVariable (targetName left') = true := by
      rw [isVariable_iff]
      rintro ⟨letter, hname', hletter⟩
      refine hname (isVariable_iff.2 ⟨letter, ?_, hletter⟩)
      exact targetName_eq_letter h.symm hletter hname'
    rw [Bool.not_eq_true] at hname hname'
    rw [c.assign_eq_error hname, c.assign_eq_error hname']
    exact .rejected rfl fun hrule => absurd rfl hrule

/-- Lines with the same tokens in every part have the same effect. -/
theorem sameEffect_of_tokenParts (c : Calculator) {line line' : Text}
    (h : tokenParts line = tokenParts line') :
    c.SameEffect (c.evaluate line) (c.evaluate line') := by
  have hparts : List.Forall₂ (fun part part' => tokenTexts part = tokenTexts part')
      (cutAt isAssignmentSign line) (cutAt isAssignmentSign line') := by
    rwa [tokenParts, tokenParts, ← List.forall₂_eq_eq_eq, List.forall₂_map_left_iff,
      List.forall₂_map_right_iff] at h
  rw [evaluate, evaluate]
  generalize cutAt isAssignmentSign line = parts at hparts ⊢
  generalize cutAt isAssignmentSign line' = parts' at hparts ⊢
  cases hparts with
  | nil => exact .refl_rejected c _
  | @cons first first' _ _ hfirst hparts =>
    cases hparts with
    | nil =>
      show c.SameEffect (c.infixValue first, c) (c.infixValue first', c)
      rw [infixValue_of_tokenTexts hfirst]
      rcases (c.outcome_infixValue first').ok_or_rejected with ⟨x, hx⟩ | ⟨r, hr⟩
      · rw [hx]
        exact .value x c
      · rw [hr]
        exact .refl_rejected c r
    | @cons second second' _ _ hsecond hparts =>
      cases hparts with
      | nil =>
        simp only [infixValue_of_tokenTexts hsecond]
        rcases (c.outcome_infixValue second').ok_or_rejected with ⟨x, hx⟩ | ⟨r, hr⟩
        · rw [hx]
          exact sameEffect_assign hfirst x
        · rw [hr]
          exact .refl_rejected c r
      | cons _ hparts =>
        simp only [List.length_cons, hparts.length_eq]
        exact .refl_rejected c _

end Calculator

/-! ## Where gaps separate nothing -/

/-- Whether a character ends the token before it and begins no longer one. -/
def separates (c : Char) : Bool :=
  !isTokenChar c || isAssignmentSign c

/-- A place in a line, given by what stands before and behind it, at which gaps separate
nothing: on one side of it there is nothing, or a character that separates tokens itself. -/
def Loose (left right : Text) : Prop :=
  (∀ c ∈ left.getLast?, separates c = true) ∨ ∀ c ∈ right.head?, separates c = true

/-- The second line is the first one with a run of gaps at such a place. -/
inductive Widened : Text → Text → Prop where
  | run {left right gaps : Text} (hplace : Loose left right) (hgaps : ∀ c ∈ gaps, isGap c = true) :
      Widened (left ++ right) (left ++ (gaps ++ right))

/-- No token goes on at a place with a gap or a parenthesis on one side of it. -/
theorem tokenTexts_append {left right : Text}
    (h : (∀ c ∈ left.getLast?, isTokenChar c = false) ∨ ∀ c ∈ right.head?, isTokenChar c = false) :
    tokenTexts (left ++ right) = tokenTexts left ++ tokenTexts right := by
  have hclass {c : Char} (hc : isTokenChar c = false) : isGap c = true ∨ isParen c = true := by
    rw [← Bool.not_eq_true, isTokenChar_iff, not_and_or] at hc
    simpa using hc
  rcases h with hlast | hhead
  · rcases List.eq_nil_or_concat left with rfl | ⟨left, c, rfl⟩
    · rfl
    · rw [List.concat_eq_append] at hlast ⊢
      rw [List.append_assoc, List.singleton_append]
      rcases hclass (hlast c (List.getLast?_concat ..)) with hgap | hparen
      · rw [tokenTexts_gap hgap, tokenTexts_gap hgap]
        simp [tokenTexts_nil]
      · rw [tokenTexts_paren hparen, tokenTexts_paren hparen]
        simp [tokenTexts_nil]
  · cases right with
    | nil => simp [tokenTexts_nil]
    | cons c right =>
      rcases hclass (hhead c rfl) with hgap | hparen
      · have hright : tokenTexts (c :: right) = tokenTexts right := tokenTexts_gap hgap [] right
        rw [tokenTexts_gap hgap, hright]
      · have hright : tokenTexts (c :: right) = [c] :: tokenTexts right :=
          tokenTexts_paren hparen [] right
        rw [tokenTexts_paren hparen, hright]

/-- Gaps between two pieces of a part, at a place where no token goes on. -/
theorem tokenTexts_widened {left right gaps : Text}
    (h : (∀ c ∈ left.getLast?, isTokenChar c = false) ∨ ∀ c ∈ right.head?, isTokenChar c = false)
    (hgaps : ∀ c ∈ gaps, isGap c = true) :
    tokenTexts (left ++ (gaps ++ right)) = tokenTexts (left ++ right) := by
  cases gaps with
  | nil => rfl
  | cons c gaps =>
    have hc : isTokenChar c = false := by simp [isTokenChar, hgaps c List.mem_cons_self]
    have hhead : ∀ d ∈ (c :: gaps ++ right).head?, isTokenChar d = false := by simpa using hc
    rw [tokenTexts_append (.inr hhead), tokenTexts_gaps_append hgaps, tokenTexts_append h]

theorem Widened.tokenParts_eq {line line' : Text} (h : Widened line line') :
    tokenParts line = tokenParts line' := by
  obtain @⟨left, right, gaps, hplace, hgaps⟩ := h
  obtain ⟨before, last, hleft⟩ := exists_cutAt_eq_append isAssignmentSign left
  obtain ⟨first, after, hright⟩ := List.exists_cons_of_ne_nil (cutAt_ne_nil isAssignmentSign right)
  have hsigns : ∀ c ∈ gaps, isAssignmentSign c = false := by
    intro c hc
    have hgap := hgaps c hc
    simp only [isGap, Bool.or_eq_true, beq_iff_eq] at hgap
    rcases hgap with rfl | rfl <;> rfl
  have hgaps' : cutAt isAssignmentSign gaps = [] ++ [gaps] := cutAt_eq_singleton hsigns
  have hmiddle : cutAt isAssignmentSign (gaps ++ right) = (gaps ++ first) :: after :=
    cutAt_append_parts hgaps' hright
  -- A sign next to the place has gone with the cutting, so that the part ends there.
  have hinside : (∀ c ∈ last.getLast?, isTokenChar c = false) ∨
      ∀ c ∈ first.head?, isTokenChar c = false := by
    refine hplace.imp (fun hlast c hc => ?_) fun hhead c hc => ?_
    · obtain ⟨hmem, hsign⟩ := getLast?_of_cutAt hleft hc
      simpa [separates, hsign] using hlast c hmem
    · obtain ⟨hmem, hsign⟩ := head?_of_cutAt hright hc
      simpa [separates, hsign] using hhead c hmem
  rw [tokenParts, tokenParts, cutAt_append_parts hleft hright, cutAt_append_parts hleft hmiddle,
    List.map_append, List.map_append, List.map_cons, List.map_cons,
    tokenTexts_widened hinside hgaps]

/-- Runs of gaps can be added and taken away again and again. -/
theorem tokenParts_of_eqvGen {line line' : Text} (h : Relation.EqvGen Widened line line') :
    tokenParts line = tokenParts line' := by
  induction h with
  | rel _ _ h => exact h.tokenParts_eq
  | refl _ => rfl
  | symm _ _ _ ih => exact ih.symm
  | trans _ _ _ _ _ ih ih' => exact ih.trans ih'

/-! ## Line ends -/

theorem Session.processLine_append_ends (s : Session) {ends : Text}
    (hends : ∀ c ∈ ends, isLineEnd c = true) (line : Text) :
    s.processLine (line ++ ends) = s.processLine line := by
  have htext : Session.lineText (line ++ ends) = Session.lineText line := trimEnd_append hends line
  rw [Session.processLine, Session.processLine, htext]

/-- Spaces and tabs between tokens do not matter.  Two lines whose parts between the assignment
signs have the same tokens have the same effect on every calculator.  Lines that differ in runs
of spaces and tabs are such lines, as long as the runs stand at the ends of a line or next to a
space or tab, a parenthesis or an assignment sign that stays.  Line ends behind a line do not
matter to a session. -/
theorem spacing_invisible (c : Calculator) (s : Session) :
    (∀ line line', tokenParts line = tokenParts line' →
        c.SameEffect (c.evaluate line) (c.evaluate line')) ∧
      (∀ line line', Relation.EqvGen Widened line line' → tokenParts line = tokenParts line') ∧
      ∀ line ends, (∀ d ∈ ends, isLineEnd d = true) →
        s.processLine (line ++ ends) = s.processLine line :=
  ⟨fun _ _ => c.sameEffect_of_tokenParts, fun _ _ => tokenParts_of_eqvGen,
    fun line _ hends => s.processLine_append_ends hends line⟩

/-- A target that is quoted as it is written, and one between blanks that separate no tokens. -/
theorem spacing_invisible_target :
    let c : Calculator := ⟨.empty, true⟩
    let s := Session.start {} .empty
    let quoted := "1 x=2".toList
    let widened := "1  x=2".toList
    let trimmed := "\u00a0 x=(1 + 1)".toList
    let spaced := "\u00a0\tx =\t( 1\t+ 1 ) ".toList
    Relation.EqvGen Widened quoted widened ∧
      c.SameEffect (c.evaluate quoted) (c.evaluate widened) ∧
      (c.evaluate quoted).1 = .error (.rejected (.badTarget "1 x".toList)) ∧
      (c.evaluate widened).1 = .error (.rejected (.badTarget "1  x".toList)) ∧
      tokenParts trimmed = tokenParts spaced ∧
      c.SameEffect (c.evaluate trimmed) (c.evaluate spaced) ∧
      (c.evaluate trimmed).1 = .ok 2 ∧
      s.processLine (spaced ++ "\r\n\n".toList) = s.processLine spaced := by
  intro c s quoted widened trimmed spaced
  obtain ⟨heffect, htokens, hends⟩ := spacing_invisible c s
  have hgap : ∀ d ∈ " ".toList, isGap d = true := List.all_eq_true.1 rfl
  have hplace : Loose "1 ".toList "x=2".toList := .inl (by rintro d ⟨⟩; rfl)
  have hquoted : Relation.EqvGen Widened quoted widened := .rel _ _ (.run hplace hgap)
  have hspaced : tokenParts trimmed = tokenParts spaced := by decide +kernel
  have hfeeds : ∀ d ∈ "\r\n\n".toList, isLineEnd d = true := List.all_eq_true.1 rfl
  refine ⟨hquoted, heffect _ _ (htokens _ _ hquoted), ?_, ?_, hspaced, heffect _ _ hspaced, ?_,
    hends spaced _ hfeeds⟩
  all_goals decide +kernel

end LineCalc
