import Mathlib.Data.List.Basic
import LineCalc.Proofs.Batches

/-!
# What a replay reports

A replay goes on behind the line at which its session halts, while the session has no more
outputs.  So it compares the expected outputs with the outputs of the session for all input
lines, up to the number of steps (`Transcript.actual`).

* `replay_eq` gives a replay as a whole: it has run every step and lists, in their order,
  the steps whose output was not the expected one.
* `mem_mismatches_iff` and `pairwise_mismatches` say this of one step and of two.
* A transcript that expects what comes out (`Transcript.recorded`) passes, and a change of
  its expected outputs is found at the steps where it is one.
-/

namespace LineCalc

namespace Transcript

/-- The input lines as the session reads them. -/
def inputs (t : Transcript) : List Text :=
  t.steps.map fun step => step.input.lossy

/-- The outputs of a fresh session for the input lines, up to the number of steps. -/
def actual (t : Transcript) : List (Option Text) :=
  Session.padded t.steps.length ((Session.start t.settings .empty).processLines t.inputs).1

/-- The transcript with the expected output of each step changed.  Steps count from zero. -/
def changed (t : Transcript) (change : Nat → Option RawText → Option RawText) : Transcript :=
  { t with
    steps := t.steps.mapIdx fun index step =>
      { step with output := change index step.output } }

/-- The transcript that expects what comes out. -/
def recorded (t : Transcript) : Transcript :=
  t.changed fun index _ => (t.actual.getD index none).map RawText.ofText

end Transcript

/-- The mismatch of a step with an output and a number, if it is one. -/
def Mismatch.of? : (Step × Option Text) × Nat → Option Mismatch
  | ((step, actual), number) =>
    if actual.map RawText.ofText = step.output then none
    else some ⟨number, step.input, step.output, actual⟩

theorem Mismatch.of?_eq_some {step : Step} {actual : Option Text} {number : Nat} {m : Mismatch} :
    Mismatch.of? ((step, actual), number) = some m ↔
      actual.map RawText.ofText ≠ step.output ∧
        m = ⟨number, step.input, step.output, actual⟩ := by
  rw [Mismatch.of?]
  split
  · next heq => simp [heq]
  · next hne => simp [hne, eq_comm]

/-! ## The whole replay -/

theorem Replay.after_eq (r : Replay) (step : Step) (actual : Option Text) :
    r.after step actual =
      { r with
        stepsRun := r.stepsRun + 1
        mismatches := r.mismatches ++
          (Mismatch.of? ((step, actual), r.stepsRun + 1)).toList } := by
  rw [Replay.after, Mismatch.of?]
  split
  · simp
  · rfl

/-- Steps are compared with the outputs for their lines one by one. -/
theorem Session.replaySteps_eq (s : Session) (r : Replay) (steps : List Step) :
    s.replaySteps r steps =
      { r with
        stepsRun := r.stepsRun + steps.length
        mismatches := r.mismatches ++
          ((steps.zip (s.processEach (steps.map fun step => step.input.lossy)).1).zipIdx
            (r.stepsRun + 1)).filterMap Mismatch.of? } := by
  induction steps generalizing s r with
  | nil => simp [replaySteps]
  | cons step rest ih =>
    rw [replaySteps, List.map_cons, processEach]
    simp only [ih, Replay.after_eq, List.zip_cons_cons, List.zipIdx_cons, List.filterMap_cons,
      List.length_cons, List.append_assoc, Nat.add_assoc, Nat.add_comm 1]
    cases Mismatch.of? ((step, (s.processUnlessHalted step.input.lossy).1), r.stepsRun + 1) <;> rfl

theorem replay_eq (t : Transcript) :
    replay t =
      ⟨t.name, t.steps.length,
        ((t.steps.zip t.actual).zipIdx 1).filterMap Mismatch.of?⟩ := by
  have hlength : (t.steps.map fun step => step.input.lossy).length = t.steps.length :=
    List.length_map _
  rw [replay, Session.replaySteps_eq, Session.processEach_eq, hlength, Nat.zero_add]
  rfl

/-! ## Its mismatches -/

namespace Transcript

theorem actual_eq_processEach (t : Transcript) :
    t.actual = ((Session.start t.settings .empty).processEach t.inputs).1 := by
  rw [Session.processEach_eq, actual, inputs, List.length_map]

theorem length_actual (t : Transcript) : t.actual.length = t.steps.length := by
  rw [actual_eq_processEach, Session.length_processEach, inputs, List.length_map]

theorem exists_getElem?_actual (t : Transcript) {index : Nat} {step : Step}
    (hstep : t.steps[index]? = some step) : ∃ output, t.actual[index]? = some output := by
  obtain ⟨hindex, -⟩ := List.getElem?_eq_some_iff.1 hstep
  rw [← length_actual] at hindex
  exact ⟨_, List.getElem?_eq_getElem hindex⟩

/-- The mismatches are the steps whose output is not the expected one. -/
theorem mem_mismatches_iff (t : Transcript) (m : Mismatch) :
    m ∈ (replay t).mismatches ↔
      ∃ index step output, t.steps[index]? = some step ∧ t.actual[index]? = some output ∧
        output.map RawText.ofText ≠ step.output ∧
        m = ⟨index + 1, step.input, step.output, output⟩ := by
  rw [replay_eq, List.mem_filterMap]
  constructor
  · rintro ⟨⟨⟨step, output⟩, number⟩, hmem, hm⟩
    obtain ⟨hnumber, hentry⟩ := List.mem_zipIdx_iff_le_and_getElem?_sub.1 hmem
    obtain ⟨hstep, houtput⟩ := List.getElem?_zip_eq_some.1 hentry
    obtain ⟨hne, rfl⟩ := Mismatch.of?_eq_some.1 hm
    refine ⟨number - 1, step, output, hstep, houtput, hne, ?_⟩
    rw [Nat.sub_add_cancel hnumber]
  · rintro ⟨index, step, output, hstep, houtput, hne, rfl⟩
    refine ⟨((step, output), index + 1), ?_, Mismatch.of?_eq_some.2 ⟨hne, rfl⟩⟩
    rw [List.mem_zipIdx_iff_le_and_getElem?_sub]
    exact ⟨Nat.le_add_left 1 index, List.getElem?_zip_eq_some.2 ⟨hstep, houtput⟩⟩

/-- The mismatches stand in the order of the steps, one for each. -/
theorem pairwise_mismatches (t : Transcript) :
    (replay t).mismatches.Pairwise fun m m' => m.step < m'.step := by
  have hnumbers : ((t.steps.zip t.actual).zipIdx 1).Pairwise fun entry entry' =>
      entry.2 < entry'.2 := by
    rw [← List.pairwise_map (R := (· < ·)), List.zipIdx_map_snd]
    exact List.pairwise_lt_range'
  rw [replay_eq, List.pairwise_filterMap]
  refine hnumbers.imp ?_
  rintro ⟨⟨step, output⟩, number⟩ ⟨⟨step', output'⟩, number'⟩ hlt m hm m' hm'
  rw [(Mismatch.of?_eq_some.1 hm).2, (Mismatch.of?_eq_some.1 hm').2]
  exact hlt

/-- A transcript passes if every output is the expected one. -/
theorem passed_iff (t : Transcript) :
    (replay t).passed = true ↔
      t.actual.map (Option.map RawText.ofText) = t.steps.map Step.output := by
  rw [Replay.passed, List.isEmpty_iff, List.eq_nil_iff_forall_not_mem, List.ext_getElem?_iff]
  constructor
  · intro hnone index
    rw [List.getElem?_map, List.getElem?_map]
    cases hstep : t.steps[index]? with
    | none =>
      have hend : t.actual[index]? = none := by
        rw [List.getElem?_eq_none_iff, length_actual]
        exact List.getElem?_eq_none_iff.1 hstep
      rw [hend]
      rfl
    | some step =>
      obtain ⟨output, houtput⟩ := t.exists_getElem?_actual hstep
      rw [houtput]
      by_contra hne
      refine hnone _ ((t.mem_mismatches_iff _).2 ⟨index, step, output, hstep, houtput, ?_, rfl⟩)
      intro heq
      exact hne (congrArg some heq)
  · intro heq m hm
    obtain ⟨index, step, output, hstep, houtput, hne, -⟩ := (t.mem_mismatches_iff m).1 hm
    have hindex := heq index
    rw [List.getElem?_map, List.getElem?_map, hstep, houtput] at hindex
    exact hne (Option.some.inj hindex)

/-! ## Recorded transcripts -/

/-- What comes out does not depend on what is expected. -/
theorem actual_changed (t : Transcript) (change : Nat → Option RawText → Option RawText) :
    (t.changed change).actual = t.actual := by
  have hinputs : (t.changed change).inputs = t.inputs := by
    refine List.ext_getElem? fun index => ?_
    rw [inputs, inputs, changed, List.getElem?_map, List.getElem?_map, List.getElem?_mapIdx,
      Option.map_map]
    rfl
  rw [actual_eq_processEach, actual_eq_processEach, hinputs]
  rfl

theorem getElem?_changed (t : Transcript) (change : Nat → Option RawText → Option RawText)
    (index : Nat) :
    (t.changed change).steps[index]? =
      t.steps[index]?.map fun step => { step with output := change index step.output } :=
  List.getElem?_mapIdx

/-- A recorded transcript passes. -/
theorem passed_recorded (t : Transcript) : (replay t.recorded).passed = true := by
  rw [passed_iff, recorded, actual_changed]
  refine List.ext_getElem? fun index => ?_
  rw [List.getElem?_map, List.getElem?_map, getElem?_changed, Option.map_map,
    List.getD_eq_getElem?_getD]
  by_cases hindex : index < t.steps.length
  · have hactual : index < t.actual.length := by rwa [length_actual]
    rw [List.getElem?_eq_getElem hindex, List.getElem?_eq_getElem hactual]
    rfl
  · have hactual : ¬ index < t.actual.length := by rwa [length_actual]
    rw [List.getElem?_eq_none (by omega), List.getElem?_eq_none (by omega)]
    rfl

/-- Changes of the expected outputs of a transcript that passes are found where they are. -/
theorem mem_mismatches_changed {t : Transcript} (hpassed : (replay t).passed = true)
    (change : Nat → Option RawText → Option RawText) (number : Nat) :
    number ∈ (replay (t.changed change)).mismatches.map Mismatch.step ↔
      ∃ index step, t.steps[index]? = some step ∧ change index step.output ≠ step.output ∧
        number = index + 1 := by
  have hexpected {index : Nat} {step : Step} {output : Option Text}
      (hstep : t.steps[index]? = some step) (houtput : t.actual[index]? = some output) :
      output.map RawText.ofText = step.output := by
    have hindex := congrArg (·[index]?) (t.passed_iff.1 hpassed)
    simp only [List.getElem?_map, hstep, houtput] at hindex
    exact Option.some.inj hindex
  rw [List.mem_map]
  constructor
  · rintro ⟨m, hm, rfl⟩
    obtain ⟨index, step', output, hstep', houtput, hne, rfl⟩ :=
      ((t.changed change).mem_mismatches_iff m).1 hm
    rw [getElem?_changed] at hstep'
    obtain ⟨step, hstep, rfl⟩ := Option.map_eq_some_iff.1 hstep'
    rw [actual_changed] at houtput
    rw [hexpected hstep houtput] at hne
    exact ⟨index, step, hstep, hne.symm, rfl⟩
  · rintro ⟨index, step, hstep, hne, rfl⟩
    obtain ⟨output, houtput⟩ := t.exists_getElem?_actual hstep
    have hchanged : (t.changed change).steps[index]? =
        some { step with output := change index step.output } := by
      rw [getElem?_changed, hstep]
      rfl
    have hdiffers : output.map RawText.ofText ≠ change index step.output := by
      rw [hexpected hstep houtput]
      exact hne.symm
    rw [← actual_changed t change] at houtput
    exact ⟨_, ((t.changed change).mem_mismatches_iff _).2
      ⟨index, _, output, hchanged, houtput, hdiffers, rfl⟩, rfl⟩

end Transcript

/-- A replay runs every step of a transcript and reports exactly the steps whose output is
not the expected one, in their order and each once.  The outputs are those of a fresh session
for the input lines; behind the line at which it halts there are none.  A transcript passes
if it expects these outputs, so one that is recorded passes, and after a change of its
expected outputs the steps where it is one are reported. -/
theorem replay_reports_differences (t : Transcript) :
    (replay t).stepsRun = t.steps.length ∧
      (∀ m, m ∈ (replay t).mismatches ↔
        ∃ index step output, t.steps[index]? = some step ∧ t.actual[index]? = some output ∧
          output.map RawText.ofText ≠ step.output ∧
          m = ⟨index + 1, step.input, step.output, output⟩) ∧
      ((replay t).mismatches.Pairwise fun m m' => m.step < m'.step) ∧
      ((replay t).passed = true ↔
        t.actual.map (Option.map RawText.ofText) = t.steps.map Step.output) ∧
      (replay t.recorded).passed = true ∧
      ∀ (change : Nat → Option RawText → Option RawText) (number : Nat),
        number ∈ (replay (t.recorded.changed change)).mismatches.map Mismatch.step ↔
          ∃ index step, t.recorded.steps[index]? = some step ∧
            change index step.output ≠ step.output ∧ number = index + 1 := by
  refine ⟨?_, t.mem_mismatches_iff, t.pairwise_mismatches, t.passed_iff, t.passed_recorded, ?_⟩
  · rw [replay_eq]
  · exact Transcript.mem_mismatches_changed t.passed_recorded

end LineCalc
