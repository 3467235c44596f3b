import LineCalc.Proofs.Classification
import LineCalc.Proofs.Numerals

/-!
# The grammar of numerals

`IsNumeral` says by a grammar which texts are numerals: between white space, and with the digits of
all scripts read as those of ASCII, a numeral is a sign or none, followed by a name or by a
significand with or without an exponent.  `Numeral.ofText?` is a reader that goes over the text
once from left to right.  It accepts just what the grammar spells (`isNumber_iff`).

* Soundness: what each part of the reader takes from the front of a text is a part of the grammar
  (`splitDigits_cases`, `splitSign_cases`).  Digits are the part that needs an induction: an
  underscore is taken only between two digits, so the reader is in the middle of a number when it
  takes one.
* Completeness: the reader takes the whole of a part, for what follows cannot be taken
  (`Digits.splitDigits_append`, `Sign.splitSign_append`).  Behind digits stands a point, an
  exponent or nothing, none of which goes on with digits (`Stops`).
* No letter, operator or parenthesis is a numeral, so that a text is a token of one kind at most
  and `classify` finds this kind (`classify_by_grammar`).
-/

namespace LineCalc

open Text

/-! ## White space -/

/-- The code points of the characters with the property White_Space. -/
def whiteSpaces : List Nat :=
  [0x0009, 0x000A, 0x000B, 0x000C, 0x000D, 0x0020, 0x0085, 0x00A0, 0x1680, 0x2000, 0x2001, 0x2002,
    0x2003, 0x2004, 0x2005, 0x2006, 0x2007, 0x2008, 0x2009, 0x200A, 0x2028, 0x2029, 0x202F, 0x205F,
    0x3000]

/-- Whether a character is white space.  The information separators U+001C to U+001F are not. -/
def isWhiteSpace (c : Char) : Bool :=
  whiteSpaces.contains c.toNat

theorem isNumeralBlank_eq_isWhiteSpace : isNumeralBlank = isWhiteSpace := by
  funext c
  rw [Bool.eq_iff_iff]
  simp only [isNumeralBlank, isBlank, inRanges, blankRanges, isWhiteSpace, whiteSpaces,
    List.any_cons, List.any_nil, List.contains_cons, List.contains_nil, Bool.and_eq_true,
    Bool.or_eq_true, Bool.not_eq_true', Bool.and_eq_false_iff, decide_eq_true_eq,
    decide_eq_false_iff_not, beq_iff_eq, Bool.false_eq_true, or_false]
  omega

namespace Numeral

/-! ## The grammar -/

/-- Digits, with underscores that stand between two of them. -/
inductive Digits : Text → Prop where
  | last {c : Char} (hc : c.isDigit = true) : Digits [c]
  | next {c : Char} {s : Text} (hc : c.isDigit = true) (hs : Digits s) : Digits (c :: s)
  | bar {c : Char} {s : Text} (hc : c.isDigit = true) (hs : Digits s) : Digits (c :: '_' :: s)

/-- A sign, or none. -/
inductive Sign : Text → Prop where
  | none : Sign []
  | plus : Sign ['+']
  | minus : Sign ['-']

/-- At least one digit, and at most one point before, behind or among the digits. -/
inductive Significand : Text → Prop where
  | whole {s : Text} (hs : Digits s) : Significand s
  | pointBehind {s : Text} (hs : Digits s) : Significand (s ++ ['.'])
  | pointBefore {s : Text} (hs : Digits s) : Significand ('.' :: s)
  | pointAmong {s s' : Text} (hs : Digits s) (hs' : Digits s') : Significand (s ++ '.' :: s')

/-- An exponent, or none. -/
inductive Exponent : Text → Prop where
  | none : Exponent []
  | some {mark : Char} {sign digits : Text} (hmark : mark = 'e' ∨ mark = 'E') (hsign : Sign sign)
      (hdigits : Digits digits) : Exponent (mark :: (sign ++ digits))

/-- The names of infinity and of what is not a number, in lower case. -/
def names : List Text :=
  ["inf".toList, "infinity".toList, "nan".toList]

/-- A numeral of ASCII characters without white space around it. -/
inductive Spelled : Text → Prop where
  | name {sign name : Text} (hsign : Sign sign) (hname : name.map Char.toLower ∈ names) :
      Spelled (sign ++ name)
  | decimal {sign significand exponent : Text} (hsign : Sign sign)
      (hsignificand : Significand significand) (hexponent : Exponent exponent) :
      Spelled (sign ++ (significand ++ exponent))

/-! ## Digits -/

/-- What follows digits without going on with them. -/
def Stops (s : Text) : Prop :=
  ∀ c ∈ s.head?, c.isDigit = false ∧ c ≠ '_'

theorem Digits.exists_cons {s : Text} (h : Digits s) :
    ∃ c rest, s = c :: rest ∧ c.isDigit = true := by
  cases h with
  | last hc => exact ⟨_, _, rfl, hc⟩
  | next hc _ => exact ⟨_, _, rfl, hc⟩
  | bar hc _ => exact ⟨_, _, rfl, hc⟩

theorem splitDigits_cons {c : Char} (hc : c.isDigit = true) (afterDigit : Bool) (rest : Text) :
    splitDigits afterDigit (c :: rest) =
      (c :: (splitDigits true rest).1, (splitDigits true rest).2) := by
  rw [splitDigits, if_pos hc]

/-- What is taken from the front of a text is nothing, digits, or behind a digit an underscore and
digits. -/
theorem splitDigits_cases (afterDigit : Bool) (s : Text) :
    ∃ taken, s = taken ++ (splitDigits afterDigit s).2 ∧
      (taken = [] ∧ (splitDigits afterDigit s).1 = [] ∨
        (splitDigits afterDigit s).1 ≠ [] ∧
          (Digits taken ∨ afterDigit = true ∧ ∃ more, taken = '_' :: more ∧ Digits more)) := by
  induction s generalizing afterDigit with
  | nil => exact ⟨[], rfl, .inl ⟨rfl, rfl⟩⟩
  | cons c rest ih =>
    by_cases hc : c.isDigit = true
    · obtain ⟨taken, hrest, hcases⟩ := ih true
      rw [splitDigits_cons hc]
      refine ⟨c :: taken, congrArg (c :: ·) hrest, .inr ⟨List.cons_ne_nil _ _, .inl ?_⟩⟩
      rcases hcases with ⟨rfl, -⟩ | ⟨-, hdigits | ⟨-, more, rfl, hmore⟩⟩
      · exact .last hc
      · exact .next hc hdigits
      · exact .bar hc hmore
    · rw [splitDigits, if_neg hc]
      split
      · next hbar =>
        simp only [Bool.and_eq_true, beq_iff_eq] at hbar
        obtain ⟨⟨rfl, rfl⟩, hhead⟩ := hbar
        obtain ⟨taken, hrest, hcases⟩ := ih false
        refine ⟨'_' :: taken, congrArg ('_' :: ·) hrest, .inr ?_⟩
        rcases hcases with ⟨-, hnone⟩ | ⟨hne, hdigits | ⟨hfalse, -⟩⟩
        · cases rest with
          | nil => cases hhead
          | cons d rest =>
            rw [splitDigits_cons hhead] at hnone
            cases hnone
        · exact ⟨hne, .inr ⟨rfl, taken, rfl, hdigits⟩⟩
        · cases hfalse
      · exact ⟨[], rfl, .inl ⟨rfl, rfl⟩⟩

/-- At the front of a number there is nothing to take or there are digits. -/
theorem splitDigits_false_cases (s : Text) :
    (splitDigits false s).1 = [] ∧ (splitDigits false s).2 = s ∨
      (splitDigits false s).1 ≠ [] ∧
        ∃ taken, Digits taken ∧ s = taken ++ (splitDigits false s).2 := by
  obtain ⟨taken, hs, hcases⟩ := splitDigits_cases false s
  rcases hcases with ⟨rfl, hnone⟩ | ⟨hne, hdigits | ⟨hfalse, -⟩⟩
  · exact .inl ⟨hnone, hs.symm⟩
  · exact .inr ⟨hne, taken, hdigits, hs⟩
  · cases hfalse

theorem splitDigits_of_stops {s : Text} (h : Stops s) (afterDigit : Bool) :
    splitDigits afterDigit s = ([], s) :=
  splitDigits_append (List.forall_mem_nil _) h afterDigit

/-- Digits are taken as a whole. -/
theorem Digits.splitDigits_append {s behind : Text} (h : Digits s) (hbehind : Stops behind)
    (afterDigit : Bool) :
    (splitDigits afterDigit (s ++ behind)).1 ≠ [] ∧
      (splitDigits afterDigit (s ++ behind)).2 = behind := by
  induction h generalizing afterDigit with
  | last hc =>
    rw [List.singleton_append, splitDigits_cons hc, splitDigits_of_stops hbehind]
    exact ⟨List.cons_ne_nil _ _, rfl⟩
  | next hc _ ih =>
    rw [List.cons_append, splitDigits_cons hc]
    exact ⟨List.cons_ne_nil _ _, (ih true).2⟩
  | @bar c s hc hs ih =>
    obtain ⟨d, rest, rfl, hd⟩ := hs.exists_cons
    have hbar : splitDigits true ('_' :: (d :: rest ++ behind)) =
        splitDigits false (d :: rest ++ behind) := by
      rw [splitDigits, if_neg (by decide), if_pos]
      exact hd
    rw [List.cons_append, List.cons_append, splitDigits_cons hc, hbar]
    exact ⟨List.cons_ne_nil _ _, (ih false).2⟩

/-! ## Signs -/

theorem splitSign_cases (s : Text) : ∃ sign, Sign sign ∧ s = sign ++ (splitSign s).2 := by
  unfold splitSign
  split
  · exact ⟨_, .minus, rfl⟩
  · exact ⟨_, .plus, rfl⟩
  · exact ⟨_, .none, rfl⟩

/-- A sign is taken if no other one follows. -/
theorem Sign.splitSign_append {sign s : Text} (h : Sign sign)
    (hs : ∀ c ∈ s.head?, c ≠ '+' ∧ c ≠ '-') : (splitSign (sign ++ s)).2 = s := by
  cases h with
  | plus => rfl
  | minus => rfl
  | none =>
    show (splitSign s).2 = s
    unfold splitSign
    split
    · exact absurd rfl (hs '-' rfl).2
    · exact absurd rfl (hs '+' rfl).1
    · rfl

theorem ne_sign_of_isDigit {c : Char} (hc : c.isDigit = true) : c ≠ '+' ∧ c ≠ '-' := by
  constructor
  · rintro rfl
    cases hc
  · rintro rfl
    cases hc

/-! ## Exponents -/

theorem Exponent.stops {s : Text} (h : Exponent s) : Stops s := by
  cases h with
  | none => exact fun _ hc => nomatch hc
  | some hmark _ _ =>
    intro c hc
    obtain rfl := Option.some.inj hc
    rcases hmark with rfl | rfl <;> decide

/-- Behind its mark an exponent is digits up to the end, with a sign or without. -/
theorem isSome_exponent?_cons {mark : Char} (hmark : mark = 'e' ∨ mark = 'E') (rest : Text) :
    (exponent? (mark :: rest)).isSome = true ↔
      (splitDigits false (splitSign rest).2).1 ≠ [] ∧
        (splitDigits false (splitSign rest).2).2 = [] := by
  have hmark' : (mark == 'e' || mark == 'E') = true := by simpa using hmark
  rw [exponent?, if_pos hmark']
  dsimp only
  generalize splitDigits false (splitSign rest).2 = split
  obtain ⟨digits, behind⟩ := split
  cases digits <;> cases behind <;> simp

theorem isSome_exponent?_iff {s : Text} : (exponent? s).isSome = true ↔ Exponent s := by
  constructor
  · intro h
    cases s with
    | nil => exact .none
    | cons mark rest =>
      by_cases hmark : mark = 'e' ∨ mark = 'E'
      · obtain ⟨hne, hend⟩ := (isSome_exponent?_cons hmark rest).1 h
        obtain ⟨sign, hsign, hrest⟩ := splitSign_cases rest
        rcases splitDigits_false_cases (splitSign rest).2 with
          ⟨hnone, -⟩ | ⟨-, digits, hdigits, htaken⟩
        · exact absurd hnone hne
        · rw [hend, List.append_nil] at htaken
          rw [hrest, htaken]
          exact .some hmark hsign hdigits
      · have hmark' : (mark == 'e' || mark == 'E') = false := by simpa using hmark
        rw [exponent?, hmark'] at h
        cases h
  · intro h
    cases h with
    | none => rfl
    | @some mark sign digits hmark hsign hdigits =>
      obtain ⟨c, rest, rfl, hc⟩ := hdigits.exists_cons
      have hsigned : (splitSign (sign ++ c :: rest)).2 = c :: rest := by
        refine hsign.splitSign_append fun d hd => ?_
        obtain rfl := Option.some.inj hd
        exact ne_sign_of_isDigit hc
      have hstops : Stops [] := by
        intro d hd
        cases hd
      have htaken := hdigits.splitDigits_append hstops false
      rw [List.append_nil] at htaken
      rw [isSome_exponent?_cons hmark, hsigned]
      exact htaken

/-! ## Decimals -/

theorem isSome_decimal?_iff_of_split {s : Text} :
    (decimal? s).isSome = true ↔
      ((splitDigits false s).1 ≠ [] ∨ (splitFraction (splitDigits false s).2).1 ≠ []) ∧
        Exponent (splitFraction (splitDigits false s).2).2 := by
  rw [← isSome_exponent?_iff, decimal?]
  generalize splitDigits false s = split
  obtain ⟨whole, rest⟩ := split
  dsimp only
  generalize splitFraction rest = split
  obtain ⟨fraction, tail⟩ := split
  cases whole <;> cases fraction <;> simp

/-- What is taken as a fraction is nothing, a point, or a point and digits. -/
theorem splitFraction_cases (s : Text) :
    (splitFraction s).1 = [] ∧ ((splitFraction s).2 = s ∨ s = '.' :: (splitFraction s).2) ∨
      (splitFraction s).1 ≠ [] ∧
        ∃ taken, Digits taken ∧ s = '.' :: (taken ++ (splitFraction s).2) := by
  unfold splitFraction
  split
  · next rest =>
    rcases splitDigits_false_cases rest with ⟨hnone, hrest⟩ | ⟨hne, taken, hdigits, hrest⟩
    · exact .inl ⟨hnone, .inr (congrArg ('.' :: ·) hrest.symm)⟩
    · exact .inr ⟨hne, taken, hdigits, congrArg ('.' :: ·) hrest⟩
  · exact .inl ⟨rfl, .inl rfl⟩

theorem Exponent.splitFraction_eq {s : Text} (h : Exponent s) : splitFraction s = ([], s) := by
  cases h with
  | none => rfl
  | some hmark _ _ => rcases hmark with rfl | rfl <;> rfl

theorem stops_point (s : Text) : Stops ('.' :: s) := by
  intro c hc
  obtain rfl := Option.some.inj hc
  decide

/-- A decimal is a significand with an exponent. -/
theorem isSome_decimal?_iff {s : Text} :
    (decimal? s).isSome = true ↔
      ∃ significand exponent, Significand significand ∧ Exponent exponent ∧
        s = significand ++ exponent := by
  rw [isSome_decimal?_iff_of_split]
  constructor
  · rintro ⟨hne, hexponent⟩
    rcases splitDigits_false_cases s with ⟨hnone, hrest⟩ | ⟨-, whole, hwhole, hs⟩
    · rw [hrest] at hne hexponent
      rcases splitFraction_cases s with ⟨hempty, -⟩ | ⟨-, fraction, hfraction, hs⟩
      · exact absurd hempty (hne.resolve_left (absurd hnone))
      · exact ⟨_, _, .pointBefore hfraction, hexponent, hs⟩
    · rcases splitFraction_cases (splitDigits false s).2 with
        ⟨-, hrest | hrest⟩ | ⟨-, fraction, hfraction, hrest⟩
      · rw [hrest] at hexponent
        exact ⟨_, _, .whole hwhole, hexponent, hs⟩
      · refine ⟨_, _, .pointBehind hwhole, hexponent, ?_⟩
        rw [List.append_assoc, List.singleton_append, ← hrest]
        exact hs
      · refine ⟨_, _, .pointAmong hwhole hfraction, hexponent, ?_⟩
        rw [List.append_assoc, List.cons_append, ← hrest]
        exact hs
  · rintro ⟨significand, exponent, hsignificand, hexponent, rfl⟩
    cases hsignificand with
    | whole hs =>
      obtain ⟨hne, hrest⟩ := hs.splitDigits_append hexponent.stops false
      rw [hrest, hexponent.splitFraction_eq]
      exact ⟨.inl hne, hexponent⟩
    | @pointBehind s hs =>
      obtain ⟨hne, hrest⟩ := hs.splitDigits_append (stops_point exponent) false
      rw [List.append_assoc, List.singleton_append, hrest, splitFraction,
        splitDigits_of_stops hexponent.stops]
      exact ⟨.inl hne, hexponent⟩
    | @pointBefore s hs =>
      obtain ⟨hne, hrest⟩ := hs.splitDigits_append hexponent.stops false
      rw [List.cons_append, splitDigits_of_stops (stops_point _), splitFraction, hrest]
      exact ⟨.inr hne, hexponent⟩
    | @pointAmong s s' hs hs' =>
      obtain ⟨hne, hrest⟩ := hs.splitDigits_append (stops_point (s' ++ exponent)) false
      obtain ⟨-, htail⟩ := hs'.splitDigits_append hexponent.stops false
      rw [List.append_assoc, List.cons_append, hrest, splitFraction, htail]
      exact ⟨.inl hne, hexponent⟩

/-! ## Numerals -/

theorem mem_names {s : Text} :
    s ∈ names ↔
      (s = ['i', 'n', 'f'] ∨ s = ['i', 'n', 'f', 'i', 'n', 'i', 't', 'y']) ∨ s = ['n', 'a', 'n'] := by
  simp [names, or_assoc]

theorem isSome_ofPlain?_iff_of_split {s : Text} :
    (ofPlain? s).isSome = true ↔
      (splitSign s).2.map Char.toLower ∈ names ∨ (decimal? (splitSign s).2).isSome = true := by
  rw [mem_names, ofPlain?]
  dsimp only
  split
  · next hinfinity => simp [hinfinity]
  · split
    · next hnan => simp [hnan]
    · next hinfinity hnan => simp [hinfinity, hnan]

/-- No name begins with a sign. -/
theorem ne_sign_of_mem_names {name : Text} (hname : name.map Char.toLower ∈ names) :
    ∀ c ∈ name.head?, c ≠ '+' ∧ c ≠ '-' := by
  intro c hc
  have hlower : c.toLower ∈ name.map Char.toLower :=
    List.mem_map_of_mem (List.mem_of_mem_head? hc)
  have hsigns : ∀ n ∈ names, '+' ∉ n ∧ '-' ∉ n := by decide
  obtain ⟨hplus, hminus⟩ := hsigns _ hname
  constructor
  · rintro rfl
    exact hplus hlower
  · rintro rfl
    exact hminus hlower

/-- A significand begins with a digit or with the point. -/
theorem Significand.ne_sign {s : Text} (h : Significand s) (rest : Text) :
    ∀ c ∈ (s ++ rest).head?, c ≠ '+' ∧ c ≠ '-' := by
  have hdigits {s rest : Text} (hs : Digits s) : ∀ c ∈ (s ++ rest).head?, c ≠ '+' ∧ c ≠ '-' := by
    obtain ⟨d, tail, rfl, hd⟩ := hs.exists_cons
    intro c hc
    obtain rfl := Option.some.inj hc
    exact ne_sign_of_isDigit hd
  cases h with
  | whole hs => exact hdigits hs
  | pointBehind hs =>
    rw [List.append_assoc]
    exact hdigits hs
  | pointBefore hs =>
    intro c hc
    obtain rfl := Option.some.inj hc
    decide
  | pointAmong hs _ =>
    rw [List.append_assoc]
    exact hdigits hs

theorem isSome_ofPlain?_iff {s : Text} : (ofPlain? s).isSome = true ↔ Spelled s := by
  rw [isSome_ofPlain?_iff_of_split]
  constructor
  · intro h
    obtain ⟨sign, hsign, hs⟩ := splitSign_cases s
    rw [hs]
    rcases h with hname | hdecimal
    · exact .name hsign hname
    · obtain ⟨significand, exponent, hsignificand, hexponent, hrest⟩ :=
        isSome_decimal?_iff.1 hdecimal
      rw [hrest]
      exact .decimal hsign hsignificand hexponent
  · intro h
    cases h with
    | name hsign hname =>
      rw [hsign.splitSign_append (ne_sign_of_mem_names hname)]
      exact .inl hname
    | decimal hsign hsignificand hexponent =>
      rw [hsign.splitSign_append (hsignificand.ne_sign _)]
      exact .inr (isSome_decimal?_iff.2 ⟨_, _, hsignificand, hexponent, rfl⟩)

end Numeral

/-- The text is a numeral: between white space, and with the digits of all scripts read as those of
ASCII, it is spelled by the grammar. -/
def IsNumeral (s : Text) : Prop :=
  Numeral.Spelled (Numeral.asciiDigits (trim isWhiteSpace s))

theorem isNumber_iff {s : Text} : isNumber s = true ↔ IsNumeral s := by
  rw [IsNumeral, ← Numeral.isSome_ofPlain?_iff, isNumber, readNumber?, Option.isSome_map,
    Numeral.ofText?, isNumeralBlank_eq_isWhiteSpace]

/-! ## Tokens -/

/-- A text is a number just if it is a numeral by the grammar, and its value is then what is read.
It is a variable, an operator or a parenthesis just if it is one of the 26 letters, the 4 signs and
the 2 parentheses, of which none is a numeral.  All other texts are rejected as they are, and this
is the only way to fail. -/
theorem classify_by_grammar (s : Text) :
    (isNumber s = true ↔ IsNumeral s) ∧
      ((∃ x, classify s = .ok (.number s x)) ↔ IsNumeral s) ∧
      (∀ x, classify s = .ok (.number s x) ↔ readNumber? s = some x) ∧
      (classify s = .ok (.var s) ↔ s ∈ variableTexts) ∧
      (classify s = .ok (.operator s) ↔ s ∈ operatorTexts) ∧
      (classify s = .ok (.leftParen s) ↔ s = ['(']) ∧
      (classify s = .ok (.rightParen s) ↔ s = [')']) ∧
      ¬ (IsNumeral s ∧ s ∈ markTexts) ∧
      ∀ reason, classify s = .error reason ↔
        reason = .badToken s ∧ ¬ IsNumeral s ∧ s ∉ markTexts := by
  have hvalue (x : Float) : classify s = .ok (.number s x) ↔ readNumber? s = some x := by
    refine classified_iff.trans ⟨fun h => ?_, .number⟩
    cases h with
    | number h => exact h
  have hnumeral : (∃ x, classify s = .ok (.number s x)) ↔ IsNumeral s := by
    simp only [hvalue, ← isNumber_iff, isNumber, Option.isSome_iff_exists]
  have hmarks : ¬ (IsNumeral s ∧ s ∈ markTexts) := by
    rintro ⟨h, hmark⟩
    rw [← isNumber_iff, isNumber_eq_false_of_mem hmark] at h
    cases h
  refine ⟨isNumber_iff, hnumeral, hvalue, ?_, ?_, ?_, ?_, hmarks, fun reason => ?_⟩
  · refine classified_iff.trans ⟨fun h => ?_, .letter⟩
    cases h with
    | letter h => exact h
  · refine classified_iff.trans ⟨fun h => ?_, .operator⟩
    cases h with
    | operator h => exact h
  · refine classified_iff.trans ⟨fun h => ?_, .leftParen⟩
    cases h with
    | leftParen h => exact h
  · refine classified_iff.trans ⟨fun h => ?_, .rightParen⟩
    cases h with
    | rightParen h => exact h
  · rw [classified_iff, ← isNumber_iff, Bool.not_eq_true]
    constructor
    · intro h
      cases h with
      | rejected hmark hnumber => exact ⟨rfl, hnumber, hmark⟩
    · rintro ⟨rfl, hnumber, hmark⟩
      exact .rejected hmark hnumber

example :
    [" +1_0.٣e-0_2 ", ".5", "7.", "-InFinity"].map (fun s => isNumber s.toList) =
      [true, true, true, true] := by decide +kernel

example :
    ["", ".", ".e1", "1e+", "1__0", "1_.5", "_1", "1_", "1 2", "1"].all
      (fun s => !isNumber s.toList) = true := by decide +kernel

end LineCalc
