import LineCalc.Proofs.Accounting
import LineCalc.Proofs.Checking
import LineCalc.Proofs.Rereading

/-!
# Outputs on lines of their own

A session writes one line for each output, and a reader who cuts the text at its line feeds has
the outputs again (`outputs_framed`).

* An output is a printed number or the sentinel.  A printed number is one line, since it can be
  read and none of its characters ends a line (`oneLine_printNumber`); the sentinel is one line
  in all settings that are accepted.
* Outputs without line feeds are the parts of the text that is written for them, but for what
  stands behind the last line feed, which is nothing (`cutAt_written`).
-/

namespace LineCalc

open Text

theorem OneLine.not_mem {s : Text} (h : OneLine s) : '\n' ∉ s ∧ '\r' ∉ s := by
  have hends {c : Char} (hend : isLineEnd c = true) : c ∉ s := by
    intro hc
    rw [h.isLineEnd_eq_false c hc] at hend
    cases hend
  exact ⟨hends rfl, hends rfl⟩

theorem oneLine_printNumber (x : Float) : OneLine (printNumber x) := by
  refine ⟨fun hnone => ?_, fun c hc => isLineEnd_of_mem_printNumber hc⟩
  obtain ⟨y, hread, -⟩ := exists_readNumber?_printNumber x
  -- Nothing can be read from an empty text.
  rw [hnone] at hread
  cases hread

namespace Session

/-! ## The outputs of lines -/

theorem oneLine_processLines {s : Session} (hs : OneLine s.settings.sentinel) (lines : List Text) :
    ∀ output ∈ (s.processLines lines).1, OneLine output := by
  rw [processLines_fst]
  intro output houtput
  obtain ⟨entry, hentry, rfl⟩ := List.mem_map.1 houtput
  rcases s.settled_entries lines entry hentry with ⟨x, -, hx⟩ | ⟨r, -, hsentinel⟩
  · rw [hx]
    exact oneLine_printNumber x
  · rw [hsentinel]
    exact hs

/-! ## The text that is written -/

theorem written_cons (output : Text) (outputs : List Text) :
    written (output :: outputs) = output ++ '\n' :: written outputs := by
  rw [written, List.flatMap_cons, List.append_assoc]
  rfl

variable {outputs : List Text}

theorem cutAt_written (h : ∀ output ∈ outputs, '\n' ∉ output) :
    cutAt (· == '\n') (written outputs) = outputs ++ [[]] := by
  induction outputs with
  | nil => rfl
  | cons output outputs ih =>
    obtain ⟨houtput, houtputs⟩ := List.forall_mem_cons.1 h
    have hfeeds : ∀ c ∈ output, (c == '\n') = false := by
      intro c hc
      rw [beq_eq_false_iff_ne]
      rintro rfl
      exact houtput hc
    rw [written_cons, cutAt_append_cons hfeeds rfl, ih houtputs, List.cons_append]

theorem count_written (h : ∀ output ∈ outputs, '\n' ∉ output) :
    (written outputs).count '\n' = outputs.length := by
  have hparts := length_cutAt (· == '\n') (written outputs)
  rw [cutAt_written h, List.length_append] at hparts
  exact (Nat.succ.inj hparts).symm

/-- The outputs of a session with accepted settings are lines with something on them, whatever
the lines that it processes.  The text that it writes for these can be cut at its line feeds
into the outputs, with nothing behind the last one, so that there is one line feed for each line
that has been processed. -/
theorem outputs_framed {d : Data} {settings : Settings} (h : Settings.ofData d = .ok settings)
    (env : Environment) (lines : List Text) :
    let s := start settings env
    let outputs := (s.processLines lines).1
    (∀ output ∈ outputs, output ≠ [] ∧ '\n' ∉ output ∧ '\r' ∉ output) ∧
      cutAt (· == '\n') (s.run lines).1 = outputs ++ [[]] ∧
      (s.run lines).1.count '\n' = (s.run lines).2.linesProcessed := by
  intro s outputs
  have hlines : ∀ output ∈ outputs, OneLine output :=
    oneLine_processLines (Settings.oneLine_of_ofData h) lines
  have hfeeds : ∀ output ∈ outputs, '\n' ∉ output := fun output houtput =>
    (hlines output houtput).not_mem.1
  have hcount : (s.processLines lines).2.linesProcessed = outputs.length := by
    rw [((accounts_start settings env).processLines lines).lines, List.nil_append]
    show _ = (s.processLines lines).1.length
    rw [processLines_fst, List.length_map]
  rw [run_eq_processLines]
  refine ⟨fun output houtput => ?_, cutAt_written hfeeds, ?_⟩
  · exact ⟨(hlines output houtput).ne_nil, (hlines output houtput).not_mem⟩
  · exact (count_written hfeeds).trans hcount.symm

/-- A sentinel that would end a line for other readers, lines with line ends in them, and a
session that halts before the last of them. -/
theorem outputs_framed_separator :
    let d : Data := .map [(.text "halt_on_error".toList, .scalar (.int 1)),
      (.text "sentinel".toList, .text "\u2028".toList)]
    let settings : Settings := { sentinel := "\u2028".toList, haltOnError := true }
    let s := start settings .empty
    let lines := ["1 + 1\r\n".toList, "2\n(\n".toList, "3".toList]
    Settings.ofData d = .ok settings ∧
      (s.processLines lines).1 = ["2.0".toList, "\u2028".toList] ∧
      cutAt (· == '\n') (s.run lines).1 = ["2.0".toList, "\u2028".toList, []] ∧
      (s.run lines).1.count '\n' = (s.run lines).2.linesProcessed := by
  intro d settings s lines
  have hsettings : Settings.ofData d = .ok settings := by decide +kernel
  have houtputs : (s.processLines lines).1 = ["2.0".toList, "\u2028".toList] := by decide +kernel
  obtain ⟨-, hcut, hcount⟩ := outputs_framed hsettings .empty lines
  refine ⟨hsettings, houtputs, ?_, hcount⟩
  rw [hcut, houtputs]
  rfl

end Session

end LineCalc
