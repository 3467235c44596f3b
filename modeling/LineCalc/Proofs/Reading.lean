import LineCalc.Proofs.Batches
import LineCalc.Proofs.Interruption

/-!
# Input in parts

The command does not wait for the end of its input: it processes each line when it has ended.
In which parts the bytes come makes no difference to what it writes.

* `endedLines` can go on from what it has held back (`endedLines_append`), and the lines of a
  text are those that have ended and those of what is held back (`cutLines_endedLines`).
* So bytes that come in two parts could have come at once (`Reading.feed_append`), and the same
  holds of any number of parts (`Reading.feedAll_flatten`).
* What has been written at the end is the output of the command (`Reading.feedAll_finish`), and
  what has been written before it is what the command leaves when reading fails before the
  first line that has not ended (`Reading.feedAll_failure`).
-/

namespace LineCalc

namespace Text

variable {α : Type} [DecidableEq α] {lf cr : α}

/-! ## Lines that have ended -/

/-- A line that has ended stays as it is, whatever comes behind. -/
theorem cutLine_append_right (hne : cr ≠ lf) {s line behind : List α}
    (h : cutLine lf cr s = (line, some behind)) (hended : ¬(behind = [] ∧ s.getLast? = some cr))
    (t : List α) : cutLine lf cr (s ++ t) = (line, some (behind ++ t)) := by
  obtain ⟨hlf, hcr, hparts⟩ := cutLine_parts lf cr s
  rw [h] at hlf hcr hparts
  rcases hparts with rfl | rfl | ⟨rfl, hbehind⟩
  · rw [List.append_assoc, List.cons_append, cutLine_append hlf hcr, cutLine_lineFeed,
      List.append_nil]
  · rw [List.append_assoc, List.cons_append, List.cons_append, cutLine_append hlf hcr,
      cutLine_both hne, List.append_nil]
  · -- A carriage return in front of something else has ended its line.
    have hsome : behind ≠ [] := by
      rintro rfl
      exact hended ⟨rfl, by simp⟩
    have hhead : (behind ++ t).head? ≠ some lf := by
      rw [List.head?_append_of_ne_nil _ hsome]
      exact hbehind
    rw [List.append_assoc, List.cons_append, cutLine_append hlf hcr,
      cutLine_carriageReturn hne hhead, List.append_nil]

theorem endedLines_of_some {s line behind : List α} (h : cutLine lf cr s = (line, some behind))
    (hended : ¬(behind = [] ∧ s.getLast? = some cr)) :
    endedLines lf cr s =
      (line :: (endedLines lf cr behind).1, (endedLines lf cr behind).2) := by
  rw [endedLines]
  split
  · next hnone =>
    rw [h] at hnone
    cases hnone
  · next hsome =>
    rw [h] at hsome
    cases hsome
    rw [if_neg hended]

/-- Where no line has ended, everything is held back. -/
theorem endedLines_eq_held {s : List α}
    (h : ∀ line behind, cutLine lf cr s = (line, some behind) →
      behind = [] ∧ s.getLast? = some cr) : endedLines lf cr s = ([], s) := by
  rw [endedLines]
  split
  · rfl
  · next line behind hcut => rw [if_pos (h line behind hcut)]

/-- The lines that have ended in a text and in what comes behind it are found one after the
other. -/
theorem endedLines_append (hne : cr ≠ lf) (s t : List α) :
    endedLines lf cr (s ++ t) =
      ((endedLines lf cr s).1 ++ (endedLines lf cr ((endedLines lf cr s).2 ++ t)).1,
        (endedLines lf cr ((endedLines lf cr s).2 ++ t)).2) := by
  induction s using endedLines.induct lf cr with
  | case1 s line hcut =>
    rw [endedLines_eq_held (s := s) (by simp [hcut])]
    rfl
  | case2 s line behind hcut hopen =>
    rw [endedLines_eq_held (s := s) (by simpa [hcut] using hopen)]
    rfl
  | case3 s line behind hcut hended lines held hrest ih =>
    have hlater : ¬(behind ++ t = [] ∧ (s ++ t).getLast? = some cr) := by
      rintro ⟨hnil, hlast⟩
      obtain ⟨rfl, rfl⟩ := List.append_eq_nil_iff.1 hnil
      rw [List.append_nil] at hlast
      exact hended ⟨rfl, hlast⟩
    rw [endedLines_of_some (cutLine_append_right hne hcut hended t) hlater,
      endedLines_of_some hcut hended, ih]
    rfl

/-- The lines of a text are those that have ended and those of what is held back. -/
theorem cutLines_endedLines (s : List α) :
    cutLines lf cr s = (endedLines lf cr s).1 ++ cutLines lf cr (endedLines lf cr s).2 := by
  induction s using endedLines.induct lf cr with
  | case1 s line hcut =>
    rw [endedLines_eq_held (s := s) (by simp [hcut])]
    rfl
  | case2 s line behind hcut hopen =>
    rw [endedLines_eq_held (s := s) (by simpa [hcut] using hopen)]
    rfl
  | case3 s line behind hcut hended lines held hrest ih =>
    rw [endedLines_of_some hcut hended, cutLines_of_some hcut, ih]
    rfl

end Text

open Text Session

/-- A session that is given its lines in two parts writes what it writes for all of them. -/
theorem Session.run_append (s : Session) (first second : List Text) :
    s.run (first ++ second) =
      ((s.run first).1 ++ ((s.run first).2.run second).1, ((s.run first).2.run second).2) := by
  simp only [run_eq_processLines, processLines_append, written, List.flatMap_append]

/-- Where the line behind the first ones cannot be read, the command has written what its
session writes for these. -/
theorem Console.run_read (first more : List Text) (fault : IOFault) :
    (run (first ++ more) (some ⟨.read first.length, fault⟩)).output =
      ((Session.start {} .empty).run first).1 := by
  have hs : (Session.start {} .empty).GoesOn := ⟨rfl, rfl⟩
  have hrun : runFrom (some ⟨FailurePoint.later 0 (.read first.length), fault⟩) _ 0
      (first ++ more) = _ := runFrom_failure hs (.read first.length) fault (first ++ more)
  have hcount : (FailurePoint.read first.length).writesBefore (first ++ more).length =
      ((Session.start {} .empty).processLines first).1.length := by
    rw [length_processLines hs, FailurePoint.writesBefore, List.length_append]
    omega
  rw [hcount, processLines_append, List.take_left] at hrun
  rw [run_eq_processLines]
  exact congrArg Outcome.output hrun

namespace Reading

/-! ## Bytes in parts -/

/-- The lines that have ended when more bytes have been read. -/
def ended (r : Reading) (bytes : List UInt8) : List Text :=
  (endedLines 10 13 (r.held ++ bytes)).1.map decodeLossy

theorem feed_eq (r : Reading) (bytes : List UInt8) :
    r.feed bytes =
      ((r.session.run (r.ended bytes)).1,
        ⟨(r.session.run (r.ended bytes)).2, (endedLines 10 13 (r.held ++ bytes)).2⟩) :=
  rfl

/-- Bytes that come in two parts could have come at once. -/
theorem feed_append (r : Reading) (first second : List UInt8) :
    r.feed (first ++ second) =
      ((r.feed first).1 ++ ((r.feed first).2.feed second).1,
        ((r.feed first).2.feed second).2) := by
  have hne : (13 : UInt8) ≠ 10 := by decide
  have hbytes := endedLines_append hne (r.held ++ first) second
  have hended : r.ended (first ++ second) =
      r.ended first ++ (r.feed first).2.ended second := by
    rw [ended, ← List.append_assoc, hbytes, List.map_append]
    rfl
  rw [feed_eq, hended, Session.run_append, ← List.append_assoc, hbytes]
  rfl

/-- What is written for bytes that come in parts, and the command after them. -/
def feedAll (r : Reading) : List (List UInt8) → Text × Reading
  | [] => ([], r)
  | part :: rest =>
    let (text, next) := r.feed part
    let (more, last) := next.feedAll rest
    (text ++ more, last)

/-- Bytes that come in parts could have come at once. -/
theorem feedAll_flatten {r : Reading} (h : r.feed [] = ([], r)) (parts : List (List UInt8)) :
    r.feedAll parts = r.feed parts.flatten := by
  induction parts generalizing r with
  | nil => exact h.symm
  | cons part rest ih =>
    -- No bytes behind the first part end no line of what is held back.
    have hnext : (r.feed part).2.feed [] = ([], (r.feed part).2) := by
      have happend := r.feed_append part []
      rw [List.append_nil] at happend
      obtain ⟨htext, hstate⟩ := Prod.ext_iff.1 happend
      exact Prod.ext (List.self_eq_append_right.1 htext) hstate.symm
    rw [List.flatten_cons, feed_append, ← ih hnext]
    rfl

/-! ## The command -/

variable (parts : List (List UInt8))

/-- A command that has read bytes in parts has read them. -/
theorem feedAll_start : ({} : Reading).feedAll parts = ({} : Reading).feed parts.flatten := by
  refine feedAll_flatten ?_ parts
  have hnone : endedLines 10 13 ([] : List UInt8) = ([], []) :=
    endedLines_eq_held (by simp [cutLine])
  rw [feed_eq, ended, List.append_nil, hnone]
  rfl

/-- Once the input has ended, the command has written its output, in whatever parts the bytes
have come. -/
theorem feedAll_finish :
    (({} : Reading).feedAll parts).1 ++ (({} : Reading).feedAll parts).2.finish =
      Console.output parts.flatten := by
  rw [feedAll_start, Console.output, Console.run, Console.runFrom_none, inputLines_eq,
    cutLines_endedLines, List.map_append, Session.run_append]
  rfl

/-- The lines that have ended are the first lines of the input, whatever comes behind. -/
theorem exists_inputLines_eq (bytes later : List UInt8) :
    ∃ more, inputLines (bytes ++ later) = ({} : Reading).ended bytes ++ more := by
  rw [inputLines_eq, cutLines_endedLines, endedLines_append (by decide), List.append_assoc,
    List.map_append]
  exact ⟨_, rfl⟩

/-- Before the end of its input, the command has written what it leaves when the first line
that has not ended cannot be read. -/
theorem feedAll_failure (later : List UInt8) (fault : IOFault) :
    (({} : Reading).feedAll parts).1 =
      (Console.run (inputLines (parts.flatten ++ later))
        (some ⟨.read (({} : Reading).ended parts.flatten).length, fault⟩)).output := by
  obtain ⟨more, hlines⟩ := exists_inputLines_eq parts.flatten later
  rw [feedAll_start, hlines, Console.run_read]
  rfl

end Reading

end LineCalc
