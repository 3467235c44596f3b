import Mathlib.Data.Char
import Mathlib.Data.List.Dedup
import Mathlib.Data.List.Nodup
import LineCalc.Environment
import LineCalc.Proofs.Tokens

/-!
# An environment as a map

An environment is a map from letters to numbers with a default.  What it holds is told by its
legal assignments since it was last cleared, in their order (`written`).  `Holds` is the invariant
that ties the entries to these assignments: a letter has the value of the last assignment to it,
and the entries stand in the order of the first assignments.

* One assignment keeps the invariant (`Holds.set`), so every call does (`Holds.call`) and every
  history of calls (`Holds.callAll`).  The initial values count as assignments, because an
  environment that is made from them is made by assigning them (`callAll_initialCalls`).
* What a call answers can be read off the assignments (`Answers`, `Holds.answers`), and no call but
  a legal assignment and a clearing changes anything (`call_eq_self`).
-/

namespace LineCalc

namespace Environment

/-! ## Calls -/

/-- A call of an environment: an operation, a pass over the assigned variables, or their
number. -/
inductive Call where
  | operation (action : Action)
  | iterate
  | count

/-- What a call gives. -/
inductive Answer where
  | reply (reply : Reply)
  | letters (names : List Char)
  | count (n : Nat)

/-- The answer to a call, and the environment after it. -/
def call (env : Environment) : Call → Answer × Environment
  | .operation action => ((.reply (env.perform action).1), (env.perform action).2)
  | .iterate => (.letters env.names, env)
  | .count => (.count env.size, env)

/-- The answers to calls one after another, and the environment after them. -/
def callAll (env : Environment) : List Call → List Answer × Environment
  | [] => ([], env)
  | c :: rest =>
    let (answer, env') := env.call c
    let (answers, final) := env'.callAll rest
    (answer :: answers, final)

/-- The calls that assign the items of a mapping. -/
def initialCalls (items : List (Text × Data)) : List Call :=
  items.map fun item => .operation (.set item.1 item.2)

/-! ## What is told by the assignments -/

/-- The letter and the number of a legal assignment. -/
def assignment? : Call → Option (Char × Float)
  | .operation (.set [c] value) =>
    match isLetter c, value.toFloat with
    | true, .ok x => some (c, x)
    | _, _ => none
  | _ => none

/-- The legal assignments since the last clearing, after one more call. -/
def record (writes : List (Char × Float)) : Call → List (Char × Float)
  | .operation .clear => []
  | c => writes ++ (assignment? c).toList

/-- The legal assignments of a history since the last clearing. -/
def written (calls : List Call) : List (Char × Float) :=
  calls.foldl record []

/-- The number that was last assigned to a letter. -/
def lastWritten? (writes : List (Char × Float)) (c : Char) : Option Float :=
  ((writes.filter fun write => write.1 == c).getLast?).map Prod.snd

/-- The map that assignments make: every text has a value. -/
def valueAfter (writes : List (Char × Float)) : Text → Float
  | [c] => (lastWritten? writes c).getD 0
  | _ => 0

/-- The entries are the letters that were assigned, in the order of the first assignments, each
with the number of the last one. -/
structure ListsWritten (writes entries : List (Char × Float)) : Prop where
  mem_iff : ∀ c x, (c, x) ∈ entries ↔ lastWritten? writes c = some x
  ordered : (entries.map Prod.fst).Pairwise fun c d =>
    (writes.map Prod.fst).idxOf c < (writes.map Prod.fst).idxOf d

/-- What a call has to answer after the given assignments. -/
def Answers (writes : List (Char × Float)) : Call → Answer → Prop
  | .operation (.get name), answer => answer = .reply (.number (valueAfter writes name))
  | .operation (.set name value), answer =>
    match assignment? (.operation (.set name value)) with
    | some _ => answer = .reply .nothing
    | none => ∃ reason, answer = .reply (.refused reason)
  | .operation .snapshot, answer =>
    ∃ entries, answer = .reply (.entries entries) ∧ ListsWritten writes entries
  | .operation .clear, answer => answer = .reply .nothing
  | .operation (.contains (.scalar key)), answer =>
    ∃ found, answer = .reply (.flag found) ∧
      (found = true ↔ ∃ c ∈ writes.map Prod.fst, key = .text [c])
  | .operation (.contains _), answer => ∃ kind, answer = .reply (.unhashable kind)
  | .operation .shown, answer => ∃ line, answer = .reply (.line line)
  | .iterate, answer =>
    ∃ names, answer = .letters names ∧ names.Pairwise (· < ·) ∧
      ∀ c, c ∈ names ↔ c ∈ writes.map Prod.fst
  | .count, answer => answer = .count (writes.map Prod.fst).dedup.length

/-! ## The last assignment -/

variable {writes : List (Char × Float)} {env env' : Environment} {c : Char} {x : Float}

theorem lastWritten?_snoc (writes : List (Char × Float)) (c d : Char) (x : Float) :
    lastWritten? (writes ++ [(c, x)]) d = if d = c then some x else lastWritten? writes d := by
  rw [lastWritten?, List.filter_append]
  by_cases h : d = c
  · subst h
    simp
  · have hne : ((c, x).1 == d) = false := beq_false_of_ne (Ne.symm h)
    rw [List.filter_cons_of_neg (by simpa using hne), if_neg h]
    simp [lastWritten?]

theorem isSome_lastWritten?_iff :
    (lastWritten? writes c).isSome = true ↔ c ∈ writes.map Prod.fst := by
  rw [lastWritten?, Option.isSome_map, List.getLast?_isSome, Ne, List.filter_eq_nil_iff]
  simp

/-! ## Entries -/

theorem mem_keys_iff : c ∈ env.entries.map Prod.fst ↔ (env.value? c).isSome = true := by
  rw [value?, List.lookup_isSome_iff, List.mem_map]
  exact exists_congr fun entry => and_congr_right fun _ => eq_comm.trans beq_iff_eq.symm

/-- Where the letters of the entries are distinct, an entry gives the value of its letter. -/
theorem mem_entries_iff (h : (env.entries.map Prod.fst).Nodup) :
    (c, x) ∈ env.entries ↔ env.value? c = some x := by
  rw [value?, List.lookup_eq_some_iff]
  constructor
  · intro hmem
    obtain ⟨before, behind, hsplit⟩ := List.append_of_mem hmem
    refine ⟨before, behind, hsplit, fun entry hentry => ?_⟩
    rw [hsplit, List.map_append, List.map_cons, List.nodup_append] at h
    have hne := h.2.2 entry.1 (List.mem_map_of_mem hentry) c List.mem_cons_self
    exact bne_iff_ne.2 (Ne.symm hne)
  · rintro ⟨before, behind, hsplit, -⟩
    rw [hsplit]
    exact List.mem_append_right _ List.mem_cons_self

theorem mem_names_iff : c ∈ env.names ↔ c ∈ env.entries.map Prod.fst :=
  (List.mergeSort_perm _ _).mem_iff

/-- A pass over distinct letters goes up. -/
theorem pairwise_names (h : (env.entries.map Prod.fst).Nodup) : env.names.Pairwise (· < ·) := by
  have hle : env.names.Pairwise fun c d => decide (c ≤ d) = true :=
    List.pairwise_mergeSort (by simpa using fun _ _ _ => le_trans) (by simpa using le_total) _
  have hne : env.names.Nodup := (List.mergeSort_perm _ _).nodup_iff.2 h
  exact (hle.and hne).imp fun hpair => lt_of_le_of_ne (of_decide_eq_true hpair.1) hpair.2

/-! ## The invariant -/

/-- The environment holds what the assignments have written. -/
structure Holds (env : Environment) (writes : List (Char × Float)) : Prop where
  isLetter : ∀ c ∈ writes.map Prod.fst, isLetter c = true
  value? : ∀ c, env.value? c = lastWritten? writes c
  ordered : (env.entries.map Prod.fst).Pairwise fun c d =>
    (writes.map Prod.fst).idxOf c < (writes.map Prod.fst).idxOf d

theorem holds_empty : Holds empty [] :=
  ⟨List.forall_mem_nil _, fun _ => rfl, List.Pairwise.nil⟩

theorem Holds.mem_keys_iff (h : Holds env writes) (c : Char) :
    c ∈ env.entries.map Prod.fst ↔ c ∈ writes.map Prod.fst := by
  rw [Environment.mem_keys_iff, h.value?, isSome_lastWritten?_iff]

theorem Holds.nodup (h : Holds env writes) : (env.entries.map Prod.fst).Nodup := by
  refine h.ordered.imp ?_
  rintro c d hlt rfl
  exact Nat.lt_irrefl _ hlt

/-- An assignment to a letter is one more assignment that the environment holds. -/
theorem Holds.set (h : Holds env writes) (hc : LineCalc.isLetter c = true) (x : Float) :
    Holds (env.set c x) (writes ++ [(c, x)]) where
  isLetter := by
    rw [List.map_append, List.forall_mem_append]
    exact ⟨h.isLetter, List.forall_mem_singleton.2 hc⟩
  value? d := by rw [value?_set, lastWritten?_snoc, h.value?]
  ordered := by
    -- The first assignments to the letters that have been assigned stay where they are.
    have hold : (env.entries.map Prod.fst).Pairwise fun c' d =>
        ((writes ++ [(c, x)]).map Prod.fst).idxOf c' <
          ((writes ++ [(c, x)]).map Prod.fst).idxOf d := by
      refine h.ordered.imp_of_mem fun hc' hd hlt => ?_
      rw [List.map_append, List.idxOf_append_of_mem ((h.mem_keys_iff _).1 hc'),
        List.idxOf_append_of_mem ((h.mem_keys_iff _).1 hd)]
      exact hlt
    rw [entries_set]
    split
    · exact hold
    · next hnew =>
      rw [List.pairwise_append]
      refine ⟨hold, List.pairwise_singleton _ _, fun d hd c' hc' => ?_⟩
      obtain rfl := List.mem_singleton.1 hc'
      have hmem := (h.mem_keys_iff d).1 hd
      rw [h.mem_keys_iff] at hnew
      rw [List.map_append, List.idxOf_append_of_mem hmem, List.idxOf_append_of_notMem hnew]
      exact Nat.lt_add_right _ (List.idxOf_lt_length_of_mem hmem)

/-! ## Calls on an environment -/

/-- An assignment of a datum is legal, or it is refused. -/
theorem assignData_cases (env : Environment) (name : Text) (d : Data) :
    (∃ c x, assignment? (.operation (.set name d)) = some (c, x) ∧ isLetter c = true ∧
        env.assignData name d = .ok (env.set c x)) ∨
      assignment? (.operation (.set name d)) = none ∧
        ∃ reason, env.assignData name d = .error reason := by
  rcases name with _ | ⟨c, _ | ⟨second, rest⟩⟩
  · exact .inr ⟨rfl, _, rfl⟩
  · rw [assignData, target, assignment?]
    cases hletter : isLetter c with
    | false => exact .inr ⟨rfl, _, rfl⟩
    | true =>
      cases hvalue : d.toFloat with
      | error reason => exact .inr ⟨rfl, _, rfl⟩
      | ok x => exact .inl ⟨c, x, rfl, hletter, rfl⟩
  · exact .inr ⟨rfl, _, rfl⟩

/-- What a call can do: it clears, it assigns, or it changes nothing. -/
theorem call_cases (env : Environment) (c : Call) :
    c = .operation .clear ∧ (env.call c).2 = empty ∨
      (∃ letter x, assignment? c = some (letter, x) ∧ isLetter letter = true ∧
        (env.call c).2 = env.set letter x) ∨
      c ≠ .operation .clear ∧ assignment? c = none ∧ (env.call c).2 = env := by
  cases c with
  | iterate => exact .inr (.inr ⟨nofun, rfl, rfl⟩)
  | count => exact .inr (.inr ⟨nofun, rfl, rfl⟩)
  | operation action =>
    cases action with
    | clear => exact .inl ⟨rfl, rfl⟩
    | set name d =>
      rw [call, perform]
      rcases env.assignData_cases name d with
        ⟨letter, x, hwrite, hletter, hset⟩ | ⟨hnone, reason, hrefused⟩
      · rw [hset]
        exact .inr (.inl ⟨letter, x, hwrite, hletter, rfl⟩)
      · rw [hrefused]
        exact .inr (.inr ⟨nofun, hnone, rfl⟩)
    | contains key => cases key <;> exact .inr (.inr ⟨nofun, rfl, rfl⟩)
    | get name => exact .inr (.inr ⟨nofun, rfl, rfl⟩)
    | snapshot => exact .inr (.inr ⟨nofun, rfl, rfl⟩)
    | shown => exact .inr (.inr ⟨nofun, rfl, rfl⟩)

theorem record_of_ne_clear {c : Call} (h : c ≠ .operation .clear) :
    record writes c = writes ++ (assignment? c).toList := by
  unfold record
  split
  · exact absurd rfl h
  · rfl

/-- Only a legal assignment and a clearing change an environment. -/
theorem call_eq_self {c : Call} (hclear : c ≠ .operation .clear) (hnone : assignment? c = none) :
    (env.call c).2 = env := by
  rcases env.call_cases c with ⟨h, -⟩ | ⟨letter, x, hwrite, -⟩ | ⟨-, -, hsame⟩
  · exact absurd h hclear
  · rw [hnone] at hwrite
    cases hwrite
  · exact hsame

theorem Holds.call (h : Holds env writes) (c : Call) : Holds (env.call c).2 (record writes c) := by
  rcases env.call_cases c with
    ⟨rfl, -⟩ | ⟨letter, x, hwrite, hletter, hset⟩ | ⟨hclear, hnone, hsame⟩
  · exact holds_empty
  · have hclear : c ≠ .operation .clear := by
      rintro rfl
      cases hwrite
    rw [hset, record_of_ne_clear hclear, hwrite]
    exact h.set hletter x
  · rw [hsame, record_of_ne_clear hclear, hnone, Option.toList_none, List.append_nil]
    exact h

theorem Holds.callAll (h : Holds env writes) (calls : List Call) :
    Holds (env.callAll calls).2 (calls.foldl record writes) := by
  induction calls generalizing env writes with
  | nil => exact h
  | cons c rest ih => exact ih (h.call c)

/-! ## Answers -/

theorem Holds.get_eq (h : Holds env writes) (name : Text) :
    env.get name = valueAfter writes name := by
  rcases name with _ | ⟨c, _ | ⟨second, rest⟩⟩
  · rfl
  · rw [get, valueAfter, h.value?]
  · rfl

theorem Holds.contains_iff (h : Holds env writes) (key : Scalar) :
    env.containsKey key = true ↔ ∃ c ∈ writes.map Prod.fst, key = .text [c] := by
  cases key with
  | text name =>
    rcases name with _ | ⟨c, _ | ⟨second, rest⟩⟩
    · simp [containsKey, contains]
    · rw [containsKey, contains, h.value?, isSome_lastWritten?_iff]
      simp
    · simp [containsKey, contains]
  | _ => simp [containsKey]

theorem Holds.size_eq (h : Holds env writes) : env.size = (writes.map Prod.fst).dedup.length := by
  have hperm : (env.entries.map Prod.fst).Perm (writes.map Prod.fst).dedup :=
    (List.perm_ext_iff_of_nodup h.nodup (List.nodup_dedup _)).2 fun c => by
      rw [List.mem_dedup, h.mem_keys_iff]
  rw [size, ← hperm.length_eq, List.length_map]

theorem Holds.listsWritten (h : Holds env writes) : ListsWritten writes env.entries :=
  ⟨fun c x => by rw [mem_entries_iff h.nodup, h.value?], h.ordered⟩

theorem Holds.answers (h : Holds env writes) (c : Call) : Answers writes c (env.call c).1 := by
  cases c with
  | iterate =>
    exact ⟨_, rfl, pairwise_names h.nodup, fun c => mem_names_iff.trans (h.mem_keys_iff c)⟩
  | count => exact congrArg Answer.count h.size_eq
  | operation action =>
    cases action with
    | get name => exact congrArg (fun x => Answer.reply (.number x)) (h.get_eq name)
    | set name d =>
      rw [Answers, Environment.call, perform]
      rcases env.assignData_cases name d with
        ⟨letter, x, hwrite, -, hset⟩ | ⟨hnone, reason, hrefused⟩
      · rw [hwrite, hset]
      · rw [hnone, hrefused]
        exact ⟨reason, rfl⟩
    | snapshot => exact ⟨_, rfl, h.listsWritten⟩
    | clear => rfl
    | contains key =>
      cases key with
      | scalar key => exact ⟨_, rfl, h.contains_iff key⟩
      | list items => exact ⟨_, rfl⟩
      | map entries => exact ⟨_, rfl⟩
    | shown => exact ⟨_, rfl⟩

/-! ## Initial values -/

theorem callAll_append (env : Environment) (calls later : List Call) :
    (env.callAll (calls ++ later)).2 = ((env.callAll calls).2.callAll later).2 := by
  induction calls generalizing env with
  | nil => rfl
  | cons c rest ih => exact ih (env.call c).2

/-- An environment that is made from initial values is made by assigning them. -/
theorem callAll_initialCalls {items : List (Text × Data)}
    (h : items.foldlM (fun env item => env.assignData item.1 item.2) env = .ok env') :
    (env.callAll (initialCalls items)).2 = env' := by
  induction items generalizing env with
  | nil => exact Except.ok.inj h
  | cons item rest ih =>
    rw [List.foldlM_cons] at h
    obtain ⟨assigned, hassigned, hrest⟩ := exists_of_bind_eq_ok h
    have hcall : (env.call (.operation (.set item.1 item.2))).2 = assigned := by
      rw [call, perform, hassigned]
    rw [← ih hrest, ← hcall]
    rfl

theorem put_of_not_mem {pair : Text × Data} {merged : List (Text × Data)}
    (h : pair.1 ∉ merged.map Prod.fst) : mergePairs.put pair merged = merged ++ [pair] := by
  induction merged with
  | nil => rfl
  | cons first rest ih =>
    rw [List.map_cons, List.mem_cons, not_or] at h
    rw [mergePairs.put, if_neg (Ne.symm h.1), ih h.2, List.cons_append]

/-- Pairs with distinct names are the items of a mapping as they are. -/
theorem mergePairs_eq_self {pairs : List (Text × Data)} (h : (pairs.map Prod.fst).Nodup) :
    mergePairs pairs = pairs := by
  have hfold (merged later : List (Text × Data))
      (hdistinct : ((merged ++ later).map Prod.fst).Nodup) :
      later.foldl (fun merged pair => mergePairs.put pair merged) merged = merged ++ later := by
    induction later generalizing merged with
    | nil => rw [List.foldl_nil, List.append_nil]
    | cons pair later ih =>
      have hnew : pair.1 ∉ merged.map Prod.fst := by
        rw [List.map_append, List.nodup_append] at hdistinct
        exact fun hmem => hdistinct.2.2 _ hmem _ List.mem_cons_self rfl
      rw [List.foldl_cons, put_of_not_mem hnew, ih _ (by rwa [← List.append_cons]),
        ← List.append_cons]
  exact hfold [] pairs h

/-- An environment is a map.  Whatever has been called since it was made, its letters are distinct,
and every call answers what the legal assignments since the last clearing tell, the items of the
initial mapping being the first of them: the value of the last assignment to a letter, or zero;
whether there has been one; the number of the letters and a pass over them that goes up; and the
letters in the order of their first assignments.  A call that is refused and a call that only reads
change nothing. -/
theorem refines_map {pairs : List (Text × Data)} {env : Environment}
    (h : ofPairs pairs = .ok env) (calls : List Call) :
    let writes := written (initialCalls (mergePairs pairs) ++ calls)
    let final := (env.callAll calls).2
    ((pairs.map Prod.fst).Nodup → mergePairs pairs = pairs) ∧
      (final.entries.map Prod.fst).Nodup ∧
      (∀ c ∈ final.entries.map Prod.fst, isLetter c = true) ∧
      (∀ c, Answers writes c (final.call c).1) ∧
      ∀ c, c ≠ .operation .clear → assignment? c = none → (final.call c).2 = final := by
  intro writes final
  have hmade : (empty.callAll (initialCalls (mergePairs pairs) ++ calls)).2 = final := by
    rw [callAll_append, callAll_initialCalls h]
  have hholds : final.Holds writes := hmade ▸ holds_empty.callAll _
  refine ⟨mergePairs_eq_self, hholds.nodup, fun c hc => ?_, hholds.answers,
    fun c hclear hnone => call_eq_self hclear hnone⟩
  exact hholds.isLetter c ((hholds.mem_keys_iff c).1 hc)

/-- Three refused assignments, one of them of bytes above the ASCII range, a new letter behind the
initial ones, and an overwritten letter that keeps its place. -/
theorem refines_map_overwritten :
    let pairs : List (Text × Data) :=
      [("b".toList, .text "2_0".toList), ("a".toList, .scalar (.int 1))]
    let refused : Call := .operation (.set "A".toList (.text "1".toList))
    let calls : List Call :=
      [.operation (.set "b".toList (.list [])), refused,
        .operation (.set "b".toList (.scalar (.bytes [0xD9, 0xA1]))),
        .operation (.set "c".toList (.scalar (.bool true))),
        .operation (.set "a".toList (.text " 4 ".toList))]
    let env : Environment := ⟨[('b', 20), ('a', 1)]⟩
    let writes : List (Char × Float) := [('b', 20), ('a', 1), ('c', 1), ('a', 4)]
    let final := (env.callAll calls).2
    ofPairs pairs = .ok env ∧ written (initialCalls (mergePairs pairs) ++ calls) = writes ∧
      (pairs.map Prod.fst).Nodup ∧ mergePairs pairs = pairs ∧
      final.entries = [('b', 20), ('a', 4), ('c', 1)] ∧
      Answers writes (.operation .snapshot) (final.call (.operation .snapshot)).1 ∧
      refused ≠ .operation .clear ∧ assignment? refused = none ∧ (final.call refused).2 = final := by
  intro pairs refused calls env writes final
  have hmade : ofPairs pairs = .ok env := by decide +kernel
  have hwritten : written (initialCalls (mergePairs pairs) ++ calls) = writes := by decide +kernel
  have hdistinct : (pairs.map Prod.fst).Nodup := by decide
  have hentries : final.entries = [('b', 20), ('a', 4), ('c', 1)] := by decide +kernel
  have hclear : refused ≠ .operation .clear := by simp [refused]
  obtain ⟨hmerged, -, -, hanswers, hsame⟩ := refines_map hmade calls
  rw [hwritten] at hanswers
  exact ⟨hmade, hwritten, hdistinct, hmerged hdistinct, hentries, hanswers _, hclear, rfl,
    hsame refused hclear rfl⟩

end Environment

end LineCalc
