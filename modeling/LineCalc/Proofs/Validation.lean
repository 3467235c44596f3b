import LineCalc.Proofs.Checking
import LineCalc.Transcript

/-!
# All that is wrong with a transcript

A check reports everything that is wrong at once.  What a check made of others reports is made of
what they report: `problems_both`, `problems_under`, `problems_map` and `problems_checkField` say
how, and `problems_checkEach` is the induction over the items of a list.  A check that fails reports
at least one problem (`Honest`), so that data are accepted just if there is nothing to report
(`Honest.exists_ok_iff`).

Of transcripts, `Transcript.problemsOf` lists the problems part by part.  For settings it asks
`Settings.ofData`, which knows nothing of transcripts, and each step has its own.  For JSON objects
these are the problems that are reported, and there are none just if every part is what it has to
be (`Transcript.ofData_compositional`).
-/

namespace LineCalc

namespace Checked

variable {α β : Type}

/-! ## What is reported -/

theorem problems_both (a : Checked α) (b : Checked β) :
    (a.both b).problems = a.problems ++ b.problems := by
  cases a <;> cases b <;> rfl

theorem problems_under (place : Place) (a : Checked α) :
    (a.under place).problems = a.problems.map (Problem.under place) := by
  cases a <;> rfl

theorem problems_map (f : α → β) (a : Checked α) : problems (a.map f) = a.problems := by
  cases a <;> rfl

/-- A check that reports nothing gives a result. -/
def Honest (a : Checked α) : Prop :=
  a.problems = [] → ∃ x, a = .ok x

theorem honest_ok (x : α) : Honest (.ok x) :=
  fun _ => ⟨x, rfl⟩

theorem honest_fail (issue : Issue) : Honest (fail issue : Checked α) :=
  nofun

theorem Honest.exists_ok_iff {a : Checked α} (h : Honest a) :
    (∃ x, a = .ok x) ↔ a.problems = [] := by
  refine ⟨?_, h⟩
  rintro ⟨x, rfl⟩
  rfl

theorem Honest.both {a : Checked α} {b : Checked β} (ha : Honest a) (hb : Honest b) :
    Honest (a.both b) := by
  intro hnone
  rw [problems_both, List.append_eq_nil_iff, ← ha.exists_ok_iff, ← hb.exists_ok_iff] at hnone
  obtain ⟨⟨x, rfl⟩, y, rfl⟩ := hnone
  exact ⟨(x, y), rfl⟩

theorem Honest.under {a : Checked α} (ha : Honest a) (place : Place) : Honest (a.under place) := by
  intro hnone
  rw [problems_under, List.map_eq_nil_iff, ← ha.exists_ok_iff] at hnone
  obtain ⟨x, rfl⟩ := hnone
  exact ⟨x, rfl⟩

theorem Honest.map {a : Checked α} (ha : Honest a) (f : α → β) : Honest (a.map f) := by
  intro hnone
  rw [problems_map, ← ha.exists_ok_iff] at hnone
  obtain ⟨x, rfl⟩ := hnone
  exact ⟨f x, rfl⟩

theorem Honest.bind {a : Checked α} {f : α → Checked β} (ha : Honest a)
    (hf : ∀ x, Honest (f x)) : Honest (a >>= f) := by
  cases a with
  | ok x => exact hf x
  | error problems =>
    intro hnone
    obtain ⟨x, hx⟩ := ha hnone
    cases hx

end Checked

open Checked

/-! ## Scalars -/

theorem honest_checkRaw (d : Data) : Honest (checkRaw d) := by
  unfold checkRaw
  repeat' split
  all_goals first | exact honest_ok _ | exact honest_fail _

theorem honest_checkRawOrNull (d : Data) : Honest (checkRawOrNull d) := by
  unfold checkRawOrNull
  split
  · exact honest_ok none
  · exact (honest_checkRaw d).map some

theorem honest_checkText (d : Data) : Honest (checkText d) := by
  refine (honest_checkRaw d).bind fun s => ?_
  split
  · exact honest_ok _
  · exact honest_fail _

theorem honest_checkIntBool (n : Int) : Honest (checkIntBool n) := by
  unfold checkIntBool
  repeat' split
  all_goals first | exact honest_ok _ | exact honest_fail _

theorem honest_checkBoolWord (s : Text) : Honest (checkBoolWord s) := by
  unfold checkBoolWord
  split
  · exact honest_ok _
  · exact honest_fail _

theorem honest_checkBool (d : Data) : Honest (checkBool d) := by
  unfold checkBool
  repeat' split
  all_goals
    first
    | exact honest_ok _
    | exact honest_fail _
    | exact honest_checkIntBool _
    | exact honest_checkBoolWord _

/-! ## Lists and mappings -/

section

variable {α : Type} {check : Data → Checked α}

/-- What is wrong with a field of a mapping. -/
def fieldProblems (key : Text) (problems : Data → List Problem) (absent : List Problem)
    (entries : List (Scalar × Data)) : List Problem :=
  ((Data.lookup key entries).elim absent problems).map (Problem.under (.key key))

/-- What is wrong with the items of a list. -/
def itemProblems (problems : Data → List Problem) (items : List Data) (start : Nat) :
    List Problem :=
  (items.zipIdx start).flatMap fun (item, i) => (problems item).map (Problem.under (.index i))

theorem itemProblems_cons (problems : Data → List Problem) (item : Data) (rest : List Data)
    (start : Nat) :
    itemProblems problems (item :: rest) start =
      (problems item).map (Problem.under (.index start)) ++
        itemProblems problems rest (start + 1) :=
  rfl

theorem problems_checkField (key : Text) (absent : Checked α) (entries : List (Scalar × Data)) :
    (checkField key check absent entries).problems =
      fieldProblems key (fun d => (check d).problems) absent.problems entries := by
  rw [checkField, fieldProblems]
  cases Data.lookup key entries with
  | none => exact problems_under _ _
  | some d => exact problems_under _ _

theorem problems_checkEach (items : List Data) (start : Nat) :
    (checkEach check start items).problems =
      itemProblems (fun d => (check d).problems) items start := by
  induction items generalizing start with
  | nil => rfl
  | cons item rest ih =>
    rw [checkEach, problems_map, problems_both, problems_under, ih, itemProblems_cons]

theorem honest_checkField (hcheck : ∀ d, Honest (check d)) (key : Text) {absent : Checked α}
    (habsent : Honest absent) (entries : List (Scalar × Data)) :
    Honest (checkField key check absent entries) := by
  rw [checkField]
  cases Data.lookup key entries with
  | none => exact habsent.under _
  | some d => exact (hcheck d).under _

theorem honest_checkEach (hcheck : ∀ d, Honest (check d)) (items : List Data) (start : Nat) :
    Honest (checkEach check start items) := by
  induction items generalizing start with
  | nil => exact honest_ok []
  | cons item rest ih => exact (((hcheck item).under _).both (ih (start + 1))).map _

theorem honest_checkList (hcheck : ∀ d, Honest (check d)) (d : Data) :
    Honest (checkList check d) := by
  cases d with
  | list items => exact honest_checkEach hcheck items 0
  | _ => exact honest_fail _

end

/-! ## Keys -/

/-- Whether an entry of a mapping has one of the given keys. -/
def isKnown (keys : List Text) (entry : Scalar × Data) : Bool :=
  match entry.1 with
  | .text key => keys.contains key
  | _ => false

theorem sameKey_text_iff {k : Scalar} {key : Text} :
    k.sameKey (.text key) = true ↔ k = .text key := by
  cases k with
  | float x => cases h : Binary64.toInt? x <;> simp [Scalar.sameKey, Scalar.sameKey.number?, h]
  | _ => simp [Scalar.sameKey, Scalar.sameKey.number?]

theorem lookup_eq_some {key : Text} {entries : List (Scalar × Data)} {d : Data}
    (h : Data.lookup key entries = some d) : (Scalar.text key, d) ∈ entries := by
  rw [Data.lookup, Option.map_eq_some_iff] at h
  obtain ⟨entry, hfound, rfl⟩ := h
  have hsame := List.find?_some hfound
  rw [← sameKey_text_iff.1 hsame]
  exact List.mem_of_find?_eq_some hfound

/-- Entries with other keys do not count. -/
theorem lookup_filter_isKnown {keys : List Text} {key : Text} (hkey : key ∈ keys)
    (entries : List (Scalar × Data)) :
    Data.lookup key (entries.filter (isKnown keys)) = Data.lookup key entries := by
  have hknown (entry : Scalar × Data) :
      decide (isKnown keys entry = true ∧ entry.1.sameKey (.text key) = true) =
        entry.1.sameKey (.text key) := by
    rw [Bool.eq_iff_iff, decide_eq_true_eq, and_iff_right_iff_imp, sameKey_text_iff]
    intro h
    rw [isKnown, h]
    exact List.contains_iff_mem.2 hkey
  rw [Data.lookup, List.find?_filter, funext hknown, Data.lookup]

theorem checkField_filter_isKnown {α : Type} {check : Data → Checked α} {absent : Checked α}
    {keys : List Text} {key : Text} (hkey : key ∈ keys) (entries : List (Scalar × Data)) :
    checkField key check absent (entries.filter (isKnown keys)) =
      checkField key check absent entries := by
  rw [checkField, lookup_filter_isKnown hkey, checkField]

/-! ## Settings -/

namespace Settings

theorem honest_checkSentinel (d : Data) : Honest (checkSentinel d) := by
  refine (honest_checkText d).bind fun s => ?_
  repeat' split
  all_goals first | exact honest_ok _ | exact honest_fail _

/-- The keys of settings. -/
def keys : List Text :=
  [sentinelKey, strictKey, haltKey]

/-- Settings are checked field by field, and then for keys that they do not know. -/
theorem checkEntries_eq (entries : List (Scalar × Data)) :
    ∃ (known : Checked Unit) (record : (Text × Bool × Bool) × Unit → Settings),
      known.problems = unknownKeys keys entries ∧ Honest known ∧
        checkEntries entries =
          (((checkField sentinelKey checkSentinel (.ok ({} : Settings).sentinel) entries).both
            ((checkField strictKey checkBool (.ok ({} : Settings).strictResidue) entries).both
              (checkField haltKey checkBool (.ok ({} : Settings).haltOnError) entries))).both
                known).map record := by
  refine ⟨_, _, ?_, ?_, rfl⟩
  · split
    · next hnone => rw [keys, hnone]; rfl
    · rfl
  · split
    · exact honest_ok ()
    · next hsome => exact fun hnone => absurd hnone hsome

/-- What is wrong with the fields of settings, and then with their keys. -/
theorem problems_checkEntries (entries : List (Scalar × Data)) :
    (checkEntries entries).problems =
      fieldProblems sentinelKey (fun d => (checkSentinel d).problems) [] entries ++
        fieldProblems strictKey (fun d => (checkBool d).problems) [] entries ++
        fieldProblems haltKey (fun d => (checkBool d).problems) [] entries ++
        unknownKeys keys entries := by
  obtain ⟨known, record, hknown, -, heq⟩ := checkEntries_eq entries
  rw [heq, problems_map, problems_both, problems_both, problems_both, problems_checkField,
    problems_checkField, problems_checkField, hknown]
  simp only [List.append_assoc]
  rfl

theorem honest_checkEntries (entries : List (Scalar × Data)) : Honest (checkEntries entries) := by
  obtain ⟨known, record, -, hknown, heq⟩ := checkEntries_eq entries
  rw [heq]
  exact (((honest_checkField honest_checkSentinel _ (honest_ok _) _).both
    ((honest_checkField honest_checkBool _ (honest_ok _) _).both
      (honest_checkField honest_checkBool _ (honest_ok _) _))).both hknown).map record

theorem honest_check (d : Data) : Honest (check d) := by
  unfold check
  repeat' split
  all_goals first | exact honest_fail _ | exact honest_checkEntries _

end Settings

/-! ## JSON values -/

/-- A text, in which there may be surrogates. -/
inductive Scalar.IsText : Scalar → Prop where
  | text (s : Text) : IsText (.text s)
  | broken (s : RawText) : IsText (.brokenText s)

namespace Data

/-- A datum that is a text. -/
def IsText (d : Data) : Prop :=
  ∃ s : Scalar, s.IsText ∧ d = .scalar s

/-- The data that JSON texts are read as: keys are texts, and there are no bytes and no moments. -/
inductive IsJson : Data → Prop where
  | null : IsJson (.scalar .null)
  | bool (value : Bool) : IsJson (.scalar (.bool value))
  | int (value : Int) : IsJson (.scalar (.int value))
  | float (value : Float) : IsJson (.scalar (.float value))
  | text {value : Scalar} (hvalue : value.IsText) : IsJson (.scalar value)
  | list {items : List Data} (hitems : ∀ item ∈ items, IsJson item) : IsJson (.list items)
  | map {entries : List (Scalar × Data)} (hkeys : ∀ entry ∈ entries, entry.1.IsText)
      (hvalues : ∀ entry ∈ entries, IsJson entry.2) : IsJson (.map entries)

variable {d : Data} {key : Text} {entries : List (Scalar × Data)}

theorem isJson_text (s : Text) : IsJson (.text s) :=
  .text (.text s)

theorem isJson_empty : IsJson (.map []) :=
  .map nofun nofun

theorem IsJson.cons (hd : d.IsJson) (h : IsJson (.map entries)) (key : Text) :
    IsJson (.map ((.text key, d) :: entries)) := by
  cases h with
  | map hkeys hvalues =>
    exact .map (List.forall_mem_cons.2 ⟨.text key, hkeys⟩) (List.forall_mem_cons.2 ⟨hd, hvalues⟩)

theorem IsJson.lookup (h : IsJson (.map entries)) (hd : Data.lookup key entries = some d) :
    d.IsJson := by
  cases h with
  | map hkeys hvalues => exact hvalues _ (lookup_eq_some hd)

end Data

/-- What is wrong with a datum that has to be a text. -/
def textProblems : Data → List Problem
  | .scalar (.text _) => []
  | .scalar (.brokenText _) => []
  | _ => [.here .notText]

/-- What is wrong with a datum that has to be a text or null. -/
def textOrNullProblems : Data → List Problem
  | .scalar .null => []
  | d => textProblems d

theorem problems_checkRaw {d : Data} (h : d.IsJson) : (checkRaw d).problems = textProblems d := by
  cases h with
  | text hvalue => cases hvalue <;> rfl
  | _ => rfl

theorem problems_checkRawOrNull {d : Data} (h : d.IsJson) :
    (checkRawOrNull d).problems = textOrNullProblems d := by
  cases h with
  | text hvalue => cases hvalue <;> rfl
  | _ => rfl

theorem textProblems_eq_nil {d : Data} : textProblems d = [] ↔ d.IsText := by
  constructor
  · intro h
    unfold textProblems at h
    split at h
    · next s => exact ⟨_, .text s, rfl⟩
    · next s => exact ⟨_, .broken s, rfl⟩
    · cases h
  · rintro ⟨_, hs, rfl⟩
    cases hs <;> rfl

theorem textOrNullProblems_eq_nil {d : Data} :
    textOrNullProblems d = [] ↔ d = .scalar .null ∨ d.IsText := by
  constructor
  · intro h
    unfold textOrNullProblems at h
    split at h
    · exact .inl rfl
    · exact .inr (textProblems_eq_nil.1 h)
  · rintro (rfl | ⟨_, hs, rfl⟩)
    · rfl
    · cases hs <;> rfl

/-! ## What is wrong with a field -/

section

variable {key : Text} {p q : Data → List Problem} {absent : List Problem}
  {entries : List (Scalar × Data)}

/-- Of a JSON object, only what is found under the key counts. -/
theorem fieldProblems_congr (hjson : Data.IsJson (.map entries)) (h : ∀ d, d.IsJson → p d = q d) :
    fieldProblems key p absent entries = fieldProblems key q absent entries := by
  rw [fieldProblems, fieldProblems]
  cases hd : Data.lookup key entries with
  | none => rfl
  | some d => exact congrArg (List.map _) (h d (hjson.lookup hd))

/-- A field that may be left out has no problems just if what is found under its key has none. -/
theorem fieldProblems_eq_nil :
    fieldProblems key p [] entries = [] ↔ ∀ d, Data.lookup key entries = some d → p d = [] := by
  rw [fieldProblems, List.map_eq_nil_iff]
  cases Data.lookup key entries with
  | none => simp
  | some d => simp

/-- A field that may not be left out has no problems just if something without problems is found
under its key. -/
theorem fieldProblems_required_eq_nil (habsent : absent ≠ []) :
    fieldProblems key p absent entries = [] ↔ ∃ d, Data.lookup key entries = some d ∧ p d = [] := by
  rw [fieldProblems, List.map_eq_nil_iff]
  cases Data.lookup key entries with
  | none => simp [habsent]
  | some d => simp

end

theorem itemProblems_congr {p q : Data → List Problem} {items : List Data}
    (h : ∀ item ∈ items, p item = q item) (start : Nat) :
    itemProblems p items start = itemProblems q items start := by
  induction items generalizing start with
  | nil => rfl
  | cons item rest ih =>
    rw [List.forall_mem_cons] at h
    rw [itemProblems_cons, itemProblems_cons, h.1, ih h.2]

theorem itemProblems_eq_nil {p : Data → List Problem} {items : List Data} {start : Nat} :
    itemProblems p items start = [] ↔ ∀ item ∈ items, p item = [] := by
  induction items generalizing start with
  | nil => simp [itemProblems]
  | cons item rest ih =>
    rw [itemProblems_cons, List.append_eq_nil_iff, List.map_eq_nil_iff, ih, List.forall_mem_cons]

/-! ## Steps -/

namespace Step

/-- The keys of a step. -/
def keys : List Text :=
  [inputKey, outputKey]

/-- All that is wrong with a step. -/
def problemsOf : Data → List Problem
  | .map entries =>
    fieldProblems inputKey textProblems [.here .missing] entries ++
      fieldProblems outputKey textOrNullProblems [] entries
  | _ => [.here (.notRecord kind)]

/-- A mapping with a text for the input, and with a text, null or nothing for the output. -/
def WellFormed (d : Data) : Prop :=
  ∃ entries, d = .map entries ∧ (∃ d, Data.lookup inputKey entries = some d ∧ d.IsText) ∧
    ∀ d, Data.lookup outputKey entries = some d → d = .scalar .null ∨ d.IsText

theorem problems_check {d : Data} (h : d.IsJson) : (check d).problems = problemsOf d := by
  cases d with
  | map entries =>
    rw [check, problems_map, problems_both, problems_checkField, problems_checkField,
      fieldProblems_congr h fun d => problems_checkRaw,
      fieldProblems_congr h fun d => problems_checkRawOrNull]
    rfl
  | _ => rfl

theorem honest_check (d : Data) : Honest (check d) := by
  cases d with
  | map entries =>
    exact ((honest_checkField honest_checkRaw _ (honest_fail _) _).both
      (honest_checkField honest_checkRawOrNull _ (honest_ok _) _)).map _
  | _ => exact honest_fail _

theorem problemsOf_eq_nil {d : Data} : problemsOf d = [] ↔ WellFormed d := by
  cases d with
  | map entries =>
    rw [problemsOf, List.append_eq_nil_iff, fieldProblems_required_eq_nil (List.cons_ne_nil _ _),
      fieldProblems_eq_nil]
    simp only [textProblems_eq_nil, textOrNullProblems_eq_nil]
    constructor
    · intro h
      exact ⟨entries, rfl, h⟩
    · rintro ⟨_, ⟨⟩, h⟩
      exact h
  | _ =>
    refine ⟨nofun, ?_⟩
    rintro ⟨_, ⟨⟩, _⟩

theorem check_filter_isKnown (entries : List (Scalar × Data)) :
    check (.map (entries.filter (isKnown keys))) = check (.map entries) := by
  rw [check, checkField_filter_isKnown (by simp [keys]), checkField_filter_isKnown (by simp [keys]),
    check]

end Step

/-! ## Settings by themselves -/

namespace Settings

/-- All that is wrong with settings. -/
def problemsOf (d : Data) : List Problem :=
  match ofData d with
  | .ok _ => []
  | .error e => e.problems

theorem problemsOf_eq (d : Data) : problemsOf d = (check d).problems := by
  rw [problemsOf, ofData]
  cases check d <;> rfl

theorem problemsOf_eq_nil {d : Data} :
    problemsOf d = [] ↔ ∃ settings, ofData d = .ok settings := by
  rw [problemsOf_eq, ← (honest_check d).exists_ok_iff]
  exact exists_congr fun settings => mapError_eq_ok.symm

variable {entries : List (Scalar × Data)}

/-- A text is reported as unknown just if it is not one of the known keys. -/
theorem unknownKeys_cons_text (known : List Text) (s : Text) (d : Data) :
    unknownKeys known ((.text s, d) :: entries) =
      if known.contains s then unknownKeys known entries
      else ⟨[.key s], .unknownKey⟩ :: unknownKeys known entries := by
  cases h : known.contains s with
  | true => exact List.filterMap_cons_none (by simp only [h]; rfl)
  | false => exact List.filterMap_cons_some (by simp only [h]; rfl)

theorem unknownKeys_eq {known : List Text} (hkeys : ∀ entry ∈ entries, entry.1.IsText)
    (hwhole : ∀ entry ∈ entries, isBroken entry.1 = false) :
    unknownKeys known entries =
      (entries.filter fun entry => !isKnown known entry).map fun entry =>
        ⟨[entry.1.place], .unknownKey⟩ := by
  induction entries with
  | nil => rfl
  | cons entry rest ih =>
    obtain ⟨k, d⟩ := entry
    obtain ⟨hkey, hrest⟩ := List.forall_mem_cons.1 hkeys
    obtain ⟨hbroken, hothers⟩ := List.forall_mem_cons.1 hwhole
    cases hkey with
    | text s =>
      have hknown : isKnown known (.text s, d) = known.contains s := rfl
      rw [unknownKeys_cons_text, ih hrest hothers, List.filter_cons, hknown]
      cases known.contains s <;> rfl
    | broken s => cases hbroken

/-- What is wrong with the entries of settings: with the fields, and then each unknown key. -/
def entryProblems (entries : List (Scalar × Data)) : List Problem :=
  fieldProblems sentinelKey (fun d => (checkSentinel d).problems) [] entries ++
    fieldProblems strictKey (fun d => (checkBool d).problems) [] entries ++
    fieldProblems haltKey (fun d => (checkBool d).problems) [] entries ++
    (entries.filter fun entry => !isKnown keys entry).map fun entry =>
      ⟨[entry.1.place], .unknownKey⟩

/-- Where a key has surrogates, nothing else is reported. -/
theorem problemsOf_map (hjson : Data.IsJson (.map entries)) :
    problemsOf (.map entries) =
      if entries.any fun entry => isBroken entry.1 then [.here .brokenText]
      else entryProblems entries := by
  cases hjson with
  | map hkeys hvalues =>
    rw [problemsOf_eq, check]
    split
    · rfl
    · next hwhole =>
      rw [entryProblems, ← unknownKeys_eq hkeys (by simpa using hwhole), ← problems_checkEntries]

/-- Settings with an unknown key are not accepted. -/
theorem problemsOf_ne_nil (hjson : Data.IsJson (.map entries)) {entry : Scalar × Data}
    (hentry : entry ∈ entries) (hunknown : isKnown keys entry = false) :
    problemsOf (.map entries) ≠ [] := by
  rw [problemsOf_map hjson]
  split
  · exact List.cons_ne_nil _ _
  · have hfound : entry ∈ entries.filter fun entry => !isKnown keys entry :=
      List.mem_filter.2 ⟨hentry, by rw [hunknown]; rfl⟩
    exact List.append_ne_nil_of_right_ne_nil _
      (mt List.map_eq_nil_iff.1 (List.ne_nil_of_mem hfound))

end Settings

/-! ## Transcripts -/

namespace Transcript

/-- The keys of a transcript. -/
def keys : List Text :=
  [nameKey, descriptionKey, settingsKey, stepsKey]

/-- All that is wrong with steps, those of one item after those of another. -/
def stepsProblems : Data → List Problem
  | .list items => itemProblems Step.problemsOf items 0
  | _ => [.here .notList]

/-- All that is wrong with a transcript, part by part. -/
def problemsOf (entries : List (Scalar × Data)) : List Problem :=
  fieldProblems nameKey textProblems [] entries ++
    fieldProblems descriptionKey textProblems [] entries ++
    fieldProblems settingsKey Settings.problemsOf [] entries ++
    fieldProblems stepsKey stepsProblems [] entries

/-- Every part of the transcript is left out or is what it has to be. -/
structure WellFormed (entries : List (Scalar × Data)) : Prop where
  name : ∀ d, Data.lookup nameKey entries = some d → d.IsText
  description : ∀ d, Data.lookup descriptionKey entries = some d → d.IsText
  settings : ∀ d, Data.lookup settingsKey entries = some d →
    ∃ settings, Settings.ofData d = .ok settings
  steps : ∀ d, Data.lookup stepsKey entries = some d →
    ∃ items, d = .list items ∧ ∀ item ∈ items, Step.WellFormed item

theorem problems_checkSteps {d : Data} (h : d.IsJson) :
    (checkList Step.check d).problems = stepsProblems d := by
  cases h with
  | list hitems =>
    rw [checkList, problems_checkEach, stepsProblems]
    exact itemProblems_congr (fun item hitem => Step.problems_check (hitems item hitem)) 0
  | _ => rfl

theorem stepsProblems_eq_nil {d : Data} :
    stepsProblems d = [] ↔ ∃ items, d = .list items ∧ ∀ item ∈ items, Step.WellFormed item := by
  cases d with
  | list items =>
    rw [stepsProblems, itemProblems_eq_nil]
    simp only [Step.problemsOf_eq_nil]
    constructor
    · intro h
      exact ⟨items, rfl, h⟩
    · rintro ⟨_, ⟨⟩, h⟩
      exact h
  | _ =>
    refine ⟨nofun, ?_⟩
    rintro ⟨_, ⟨⟩, _⟩

variable {entries : List (Scalar × Data)}

theorem problemsOf_eq_nil : problemsOf entries = [] ↔ WellFormed entries := by
  simp only [problemsOf, List.append_eq_nil_iff, fieldProblems_eq_nil, textProblems_eq_nil,
    Settings.problemsOf_eq_nil, stepsProblems_eq_nil]
  constructor
  · rintro ⟨⟨⟨hname, hdescription⟩, hsettings⟩, hsteps⟩
    exact ⟨hname, hdescription, hsettings, hsteps⟩
  · rintro ⟨hname, hdescription, hsettings, hsteps⟩
    exact ⟨⟨⟨hname, hdescription⟩, hsettings⟩, hsteps⟩

theorem problems_check (h : Data.IsJson (.map entries)) :
    (check (.map entries)).problems = problemsOf entries := by
  rw [check, problems_map, problems_both, problems_both, problems_both, problems_checkField,
    problems_checkField, problems_checkField, problems_checkField, ← funext Settings.problemsOf_eq,
    fieldProblems_congr h fun d => problems_checkRaw,
    fieldProblems_congr h fun d => problems_checkRaw,
    fieldProblems_congr h fun d => problems_checkSteps, problemsOf]
  simp only [List.append_assoc]
  rfl

theorem honest_check (d : Data) : Honest (check d) := by
  cases d with
  | map entries =>
    exact ((honest_checkField honest_checkRaw _ (honest_ok _) _).both
      ((honest_checkField honest_checkRaw _ (honest_ok _) _).both
        ((honest_checkField Settings.honest_check _ (honest_ok _) _).both
          (honest_checkField (honest_checkList Step.honest_check) _ (honest_ok _) _)))).map _
  | _ => exact honest_fail _

theorem check_filter_isKnown (entries : List (Scalar × Data)) :
    check (.map (entries.filter (isKnown keys))) = check (.map entries) := by
  rw [check, checkField_filter_isKnown (by simp [keys]), checkField_filter_isKnown (by simp [keys]),
    checkField_filter_isKnown (by simp [keys]), checkField_filter_isKnown (by simp [keys]), check]

theorem ofData_eq_error {d : Data} {e : ValidationError} :
    ofData d = .error e ↔ (check d).problems ≠ [] ∧ e = ⟨kind, (check d).problems⟩ := by
  rw [ofData]
  cases hcheck : check d with
  | ok t =>
    constructor
    · rintro ⟨⟩
    · rintro ⟨hsome, -⟩
      exact absurd rfl hsome
  | error problems =>
    have hsome : problems ≠ [] := by
      rintro rfl
      obtain ⟨t, ht⟩ := honest_check d (by rw [hcheck]; rfl)
      rw [hcheck] at ht
      cases ht
    constructor
    · rintro ⟨⟩
      exact ⟨hsome, rfl⟩
    · rintro ⟨-, rfl⟩
      rfl

/-- The settings of a transcript are what its settings are by themselves. -/
theorem settings_of_ofData {t : Transcript} (h : ofData (.map entries) = .ok t) :
    (∃ d, Data.lookup settingsKey entries = some d ∧ Settings.ofData d = .ok t.settings) ∨
      Data.lookup settingsKey entries = none ∧ t.settings = {} := by
  obtain ⟨⟨name, description, settings, steps⟩, hboth, rfl⟩ := map_eq_ok.1 (mapError_eq_ok.1 h)
  obtain ⟨-, hrest⟩ := both_eq_ok.1 hboth
  obtain ⟨-, hrest⟩ := both_eq_ok.1 hrest
  obtain ⟨hsettings, -⟩ := both_eq_ok.1 hrest
  rcases checkField_eq_ok.1 hsettings with ⟨d, hd, hchecked⟩ | ⟨hnone, habsent⟩
  · exact .inl ⟨d, hd, mapError_eq_ok.2 hchecked⟩
  · exact .inr ⟨hnone, (Except.ok.inj habsent).symm⟩

theorem oneLine_of_ofData {t : Transcript} (h : ofData (.map entries) = .ok t) :
    OneLine t.settings.sentinel := by
  rcases settings_of_ofData h with ⟨d, -, hsettings⟩ | ⟨-, hstandard⟩
  · exact Settings.oneLine_of_ofData hsettings
  · rw [hstandard]
    exact Settings.oneLine_standard

/-- A JSON object is a transcript just if each of its parts is what it has to be, and otherwise all
that is wrong with the parts is reported, part by part.  Unknown keys of transcripts and steps do
not count; of settings each is a problem.  The settings of a transcript are what they are by
themselves, and its sentinel is one line. -/
theorem ofData_compositional (hjson : Data.IsJson (.map entries)) :
    ((∃ t, ofData (.map entries) = .ok t) ↔ WellFormed entries) ∧
    (∀ e, ofData (.map entries) = .error e ↔
      problemsOf entries ≠ [] ∧ e = ⟨kind, problemsOf entries⟩) ∧
    ofData (.map (entries.filter (isKnown keys))) = ofData (.map entries) ∧
    (∀ step, Step.check (.map (step.filter (isKnown Step.keys))) = Step.check (.map step)) ∧
    (∀ settings, Data.IsJson (.map settings) →
      (∀ entry ∈ settings, isKnown Settings.keys entry = false →
        Settings.problemsOf (.map settings) ≠ []) ∧
      ((∀ entry ∈ settings, Settings.isBroken entry.1 = false) →
        Settings.problemsOf (.map settings) = Settings.entryProblems settings)) ∧
    (∀ t, ofData (.map entries) = .ok t →
      ((∃ d, Data.lookup settingsKey entries = some d ∧ Settings.ofData d = .ok t.settings) ∨
        Data.lookup settingsKey entries = none ∧ t.settings = {}) ∧
      t.settings.sentinel ≠ [] ∧ '\n' ∉ t.settings.sentinel ∧ '\r' ∉ t.settings.sentinel) := by
  refine ⟨?accepted, ?rejected, ?unknown, Step.check_filter_isKnown, ?settings, ?sentinel⟩
  case accepted =>
    rw [← problemsOf_eq_nil, ← problems_check hjson, ← (honest_check _).exists_ok_iff]
    exact exists_congr fun t => mapError_eq_ok
  case rejected =>
    intro e
    rw [ofData_eq_error, problems_check hjson]
  case unknown => rw [ofData, check_filter_isKnown, ofData]
  case settings =>
    intro settings hsettings
    refine ⟨fun entry hentry => Settings.problemsOf_ne_nil hsettings hentry, fun hwhole => ?_⟩
    rw [Settings.problemsOf_map hsettings, if_neg (by simpa using hwhole)]
  case sentinel =>
    intro t ht
    obtain ⟨hne, hends⟩ := oneLine_of_ofData ht
    refine ⟨settings_of_ofData ht, hne, fun hmem => ?_, fun hmem => ?_⟩
    · exact absurd (hends _ hmem) (by decide)
    · exact absurd (hends _ hmem) (by decide)

/-- All that is wrong is reported: a name that is no text, an empty sentinel, an unknown key of the
settings and a step without input. -/
theorem ofData_compositional_rejected :
    ofData (.map [
      (.text "name".toList, .scalar (.int 5)),
      (.text "author".toList, .scalar .null),
      (.text "settings".toList, .map [
        (.text "color".toList, .scalar .null),
        (.text "sentinel".toList, .text [])]),
      (.text "steps".toList, .list [
        .map [(.text "input".toList, .text ['1'])],
        .map [(.text "output".toList, .scalar .null)]])]) =
    .error ⟨"Transcript", [
      ⟨[.key "name".toList], .notText⟩,
      ⟨[.key "settings".toList, .key "sentinel".toList], .emptyText⟩,
      ⟨[.key "settings".toList, .key "color".toList], .unknownKey⟩,
      ⟨[.key "steps".toList, .index 1, .key "input".toList], .missing⟩]⟩ :=
  have hsettings := (Data.isJson_text []).cons Data.isJson_empty "sentinel".toList
  have hfirst := (Data.isJson_text ['1']).cons Data.isJson_empty "input".toList
  have hsecond := Data.IsJson.null.cons Data.isJson_empty "output".toList
  have hsteps := Data.IsJson.list (by simpa using ⟨hfirst, hsecond⟩)
  ((ofData_compositional
    ((Data.IsJson.int 5).cons
      (Data.IsJson.null.cons
        ((Data.IsJson.null.cons hsettings "color".toList).cons
          (hsteps.cons Data.isJson_empty "steps".toList) "settings".toList) "author".toList)
            "name".toList)).2.1 _).2 ⟨by decide, by rfl⟩

end Transcript

end LineCalc
