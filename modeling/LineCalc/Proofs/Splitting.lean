import Mathlib.Data.List.DropRight
import LineCalc.Proofs.Scanning

/-!
# Cutting a line in passes or at once

`splitTexts` goes over a line in four passes, and `scanTexts` reads it once.  Both give the
texts that the calculator works with (`splitTexts_eq_tokenTexts`).

* Putting spaces around the two kinds of parentheses one after the other is the same as doing
  it at once, because the first pass brings no parenthesis of the second kind
  (`substitute_parens`).
* Gaps at the ends of a text separate no words (`words_trim`).
* A text that is not empty and neither begins nor ends with a gap is cut at its runs of gaps
  into its words (`splitRuns_eq_words`).  The ends matter: a run there would leave an empty
  part.  `EndsOutside` holds of a trimmed text and again of what stands behind a run, so it
  carries the induction.
-/

namespace LineCalc

namespace Text

variable {p : Char → Bool}

/-! ## The ends of a text -/

/-- The text neither begins nor ends with a character of the class. -/
def EndsOutside (p : Char → Bool) (s : Text) : Prop :=
  (∀ c ∈ s.head?, p c = false) ∧ ∀ c ∈ s.getLast?, p c = false

theorem eq_false_of_mem_head? {s : Text} {c : Char} (hc : c ∈ (s.dropWhile p).head?) :
    p c = false := by
  rw [← List.find?_not_eq_head?_dropWhile] at hc
  simpa using List.find?_some hc

theorem mem_getLast?_of_suffix {s tail : Text} (h : tail <:+ s) {c : Char}
    (hc : c ∈ tail.getLast?) : c ∈ s.getLast? := by
  obtain ⟨before, rfl⟩ := h
  exact List.mem_getLast?_append_of_mem_getLast? hc

theorem endsOutside_trim (p : Char → Bool) (s : Text) : EndsOutside p (trim p s) := by
  rw [trim, trimEnd]
  constructor
  · intro c hc
    rw [List.head?_reverse] at hc
    have hlast := mem_getLast?_of_suffix (List.dropWhile_suffix p) hc
    rw [List.getLast?_reverse] at hlast
    exact eq_false_of_mem_head? hlast
  · intro c hc
    rw [List.getLast?_reverse] at hc
    exact eq_false_of_mem_head? hc

/-! ## Words between runs -/

theorem words_run_append {run : Text} (hrun : ∀ c ∈ run, p c = true) (s : Text) :
    words p (run ++ s) = words p s := by
  induction run with
  | nil => rfl
  | cons c run ih =>
    obtain ⟨hc, hrun⟩ := List.forall_mem_cons.1 hrun
    exact (words_append hc [] (run ++ s)).trans (ih hrun)

theorem words_append_run {run : Text} (hrun : ∀ c ∈ run, p c = true) (s : Text) :
    words p (s ++ run) = words p s := by
  cases run with
  | nil => rw [List.append_nil]
  | cons c run =>
    obtain ⟨hc, hrun⟩ := List.forall_mem_cons.1 hrun
    have hnone : words p run = [] := by
      rw [← List.append_nil run]
      exact words_run_append hrun []
    rw [words_append hc, hnone, List.append_nil]

theorem words_dropWhile (p : Char → Bool) (s : Text) : words p (s.dropWhile p) = words p s := by
  have hrun : ∀ c ∈ s.takeWhile p, p c = true := fun _ => List.mem_takeWhile_imp
  rw [← words_run_append hrun, List.takeWhile_append_dropWhile]

/-- Characters of the class at the ends of a text separate no words. -/
theorem words_trim (p : Char → Bool) (s : Text) : words p (trim p s) = words p s := by
  have hrun : ∀ c ∈ (s.dropWhile p).rtakeWhile p, p c = true := fun _ => List.mem_rtakeWhile_imp
  have htrim : trim p s ++ (s.dropWhile p).rtakeWhile p = s.dropWhile p :=
    List.rdropWhile_append_rtakeWhile
  rw [← words_append_run hrun, htrim, words_dropWhile]

/-- Between runs that stand inside a text are its words. -/
theorem splitRuns_eq_words {s : Text} (hs : s ≠ []) (hends : EndsOutside p s) :
    splitRuns p s = words p s := by
  fun_induction splitRuns p s with
  | case1 s hnone =>
    rw [words_eq_singleton hs]
    simpa using List.dropWhile_eq_nil_iff.1 hnone
  | case2 s c rest hrun ih =>
    generalize hfirst : s.takeWhile (fun d => !p d) = first
    have hfirstChars : ∀ d ∈ first, p d = false := by
      intro d hd
      rw [← hfirst] at hd
      simpa using List.mem_takeWhile_imp hd
    have hc : p c = true := by
      have hhead : c ∈ (s.dropWhile fun d => !p d).head? := by rw [hrun]; rfl
      simpa using eq_false_of_mem_head? hhead
    obtain rfl : first ++ c :: rest = s := by
      rw [← hfirst, ← hrun]
      exact List.takeWhile_append_dropWhile
    obtain ⟨hhead, hlast⟩ := hends
    have hfirstNe : first ≠ [] := by
      rintro rfl
      rw [hhead c rfl] at hc
      cases hc
    have hrestNe : rest.dropWhile p ≠ [] := by
      intro hnone
      have hrun : ∀ d ∈ c :: rest, p d = true :=
        List.forall_mem_cons.2 ⟨hc, List.dropWhile_eq_nil_iff.1 hnone⟩
      have hend := hlast _ (mem_getLast?_of_suffix (List.suffix_append first _)
        (List.getLast_mem_getLast? (List.cons_ne_nil c rest)))
      rw [hrun _ (List.getLast_mem (List.cons_ne_nil c rest))] at hend
      cases hend
    have hrestEnds : EndsOutside p (rest.dropWhile p) := by
      have hsuffix : rest.dropWhile p <:+ first ++ c :: rest :=
        (List.dropWhile_suffix p).trans
          ((List.suffix_cons c rest).trans (List.suffix_append first _))
      exact ⟨fun d => eq_false_of_mem_head?, fun d hd => hlast d (mem_getLast?_of_suffix hsuffix hd)⟩
    rw [words_append hc, words_eq_singleton hfirstNe hfirstChars, ih hrestNe hrestEnds,
      words_dropWhile]
    rfl

end Text

open Text

/-! ## The passes over a line -/

/-- The parentheses can be spaced one kind after the other. -/
theorem substitute_parens (line : Text) :
    substitute ')' [' ', ')', ' '] (substitute '(' [' ', '(', ' '] line) = padParens line := by
  rw [substitute, substitute, padParens, List.flatMap_assoc]
  refine List.flatMap_congr fun c _ => ?_
  by_cases hleft : c = '('
  · subst hleft
    rfl
  · by_cases hright : c = ')'
    · subst hright
      rfl
    · simp [hleft, hright, isParen]

theorem splitTexts_eq_tokenTexts (line : Text) : splitTexts line = tokenTexts line := by
  rw [splitTexts, substitute_parens, tokenTexts, ← words_trim]
  cases htrimmed : trim isGap (padParens line) with
  | nil => rfl
  | cons c rest =>
    rw [← htrimmed]
    have hne : trim isGap (padParens line) ≠ [] := by simp [htrimmed]
    have hempty : (trim isGap (padParens line)).isEmpty = false := by simp [htrimmed]
    rw [hempty, splitRuns_eq_words hne (endsOutside_trim _ _)]
    rfl

/-- A run of gaps ends a token. -/
theorem tokenTexts_gaps {gaps : Text} (hne : gaps ≠ []) (hgaps : ∀ c ∈ gaps, isGap c = true)
    (left right : Text) :
    tokenTexts (left ++ gaps ++ right) = tokenTexts left ++ tokenTexts right := by
  cases gaps with
  | nil => exact absurd rfl hne
  | cons c gaps =>
    obtain ⟨hc, hgaps⟩ := List.forall_mem_cons.1 hgaps
    rw [List.append_assoc, List.cons_append, tokenTexts_gap hc, tokenTexts_gaps_append hgaps]

/-- A line is cut into the texts that one reading from left to right gives, and so do the
four passes.  The texts are not empty, hold no gap, and hold a parenthesis only if they are this
parenthesis.  One after another they are the line without its gaps.  A run of gaps cuts a line
into two that are cut each for itself, and so does a parenthesis, which is a text of its own. -/
theorem tokenTexts_read_once (line : Text) :
    tokenTexts line = scanTexts line ∧ splitTexts line = scanTexts line ∧
      (∀ s ∈ tokenTexts line, s ≠ [] ∧ (∀ c ∈ s, isGap c = false) ∧
        ∀ c ∈ s, isParen c = true → s = [c]) ∧
      (tokenTexts line).flatten = line.filter (fun c => !isGap c) ∧
      (∀ left gaps right : Text, gaps ≠ [] → (∀ c ∈ gaps, isGap c = true) →
        tokenTexts (left ++ gaps ++ right) = tokenTexts left ++ tokenTexts right) ∧
      ∀ (left right : Text) (c : Char), isParen c = true →
        tokenTexts (left ++ [c] ++ right) = tokenTexts left ++ [[c]] ++ tokenTexts right := by
  have hscan := tokenTexts_eq_scanTexts line
  refine ⟨hscan, (splitTexts_eq_tokenTexts line).trans hscan, fun s hs => ?_,
    flatten_tokenTexts line, fun left gaps right hne hgaps => tokenTexts_gaps hne hgaps left right,
    fun left right c hc => ?_⟩
  · have htext := tokenText_of_mem hs
    exact ⟨htext.ne_nil, htext.isGap_eq_false, fun c hc => htext.of_mem_paren hc⟩
  · rw [List.append_assoc, List.append_assoc]
    exact tokenTexts_paren hc left right

/-- Adjacent parentheses, gaps at both ends, and a blank that is no gap. -/
theorem tokenTexts_read_once_blank :
    let line := "\t((a\u00a0b )1 ".toList
    let gaps := " \t ".toList
    tokenTexts line = scanTexts line ∧ splitTexts line = scanTexts line ∧
      scanTexts line = ["(", "(", "a\u00a0b", ")", "1"].map String.toList ∧
      gaps ≠ [] ∧ (∀ c ∈ gaps, isGap c = true) ∧
      tokenTexts (line ++ gaps ++ line) = tokenTexts line ++ tokenTexts line ∧
      isParen ')' = true ∧
      tokenTexts (line ++ [')'] ++ line) = tokenTexts line ++ [[')']] ++ tokenTexts line := by
  intro line gaps
  obtain ⟨hscan, hsplit, -, -, hgap, hparen⟩ := tokenTexts_read_once line
  have hgaps : ∀ c ∈ gaps, isGap c = true := List.all_eq_true.1 rfl
  have hne : gaps ≠ [] := by decide
  refine ⟨hscan, hsplit, ?_, hne, hgaps, hgap line gaps line hne hgaps, rfl, hparen line line _ rfl⟩
  decide +kernel

end LineCalc
