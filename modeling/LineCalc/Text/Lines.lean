import LineCalc.Text.Basic

/-!
# Lines

A line ends at a line feed, at a carriage return, or at a carriage return with a
line feed behind it.  What stands behind the last end is a line too, unless it is
empty.  The same rule cuts characters and bytes, so `cutLines` is stated over any
symbols, of which two are the ends.

Of a text that is still being read, `endedLines` gives the lines that have ended.
-/

namespace LineCalc.Text

variable {α : Type}

/-- The text up to its first line end, and what stands behind that end, or `none`
if there is no line end. -/
def cutLine [DecidableEq α] (lf cr : α) : List α → List α × Option (List α)
  | [] => ([], none)
  | c :: rest =>
    if c = lf then ([], some rest)
    else if c = cr then
      match rest with
      | [] => ([], some [])
      | d :: rest' => ([], some (if d = lf then rest' else d :: rest'))
    else
      let (line, behind) := cutLine lf cr rest
      (c :: line, behind)

/-- What stands behind the first line end is shorter than the text. -/
theorem length_of_cutLine [DecidableEq α] {lf cr : α} {s behind : List α} {line : List α}
    (h : cutLine lf cr s = (line, some behind)) : behind.length < s.length := by
  induction s generalizing line with
  | nil => simp [cutLine] at h
  | cons c rest ih =>
    simp only [cutLine] at h
    split at h
    · simp only [Prod.mk.injEq, Option.some.injEq] at h
      simp [h.2]
    · split at h
      · split at h
        · simp only [Prod.mk.injEq, Option.some.injEq] at h
          simp [← h.2]
        · simp only [Prod.mk.injEq, Option.some.injEq] at h
          rw [← h.2]
          split <;> simp only [List.length_cons] <;> omega
      · simp only [Prod.mk.injEq] at h
        have heq : cutLine lf cr rest = ((cutLine lf cr rest).1, some behind) := by
          rw [← h.2]
        have := ih heq
        simp only [List.length_cons]
        omega

/-- The lines of a text, without their ends. -/
def cutLines [DecidableEq α] (lf cr : α) (s : List α) : List (List α) :=
  match _h : cutLine lf cr s with
  | (line, some behind) => line :: cutLines lf cr behind
  | ([], none) => []
  | (line, none) => [line]
termination_by s.length
decreasing_by exact length_of_cutLine _h

/-- The lines that have ended in a text that may go on, without their ends, and what
stands behind them.  A carriage return that is the last symbol so far leaves its line
open, because a line feed may come behind it. -/
def endedLines [DecidableEq α] (lf cr : α) (s : List α) : List (List α) × List α :=
  match _h : cutLine lf cr s with
  | (_, none) => ([], s)
  | (line, some behind) =>
    if behind = [] ∧ s.getLast? = some cr then ([], s)
    else
      let (lines, held) := endedLines lf cr behind
      (line :: lines, held)
termination_by s.length
decreasing_by exact length_of_cutLine _h

/-- The lines of a text, without their ends. -/
def lines (s : Text) : List Text :=
  cutLines '\n' '\r' s

/-- A text whose line ends are all line feeds. -/
def unifyLineEnds : Text → Text
  | [] => []
  | '\r' :: '\n' :: rest => '\n' :: unifyLineEnds rest
  | '\r' :: rest => '\n' :: unifyLineEnds rest
  | c :: rest => c :: unifyLineEnds rest

end LineCalc.Text
