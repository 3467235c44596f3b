import LineCalc.Settings

/-!
# Data that passes a check

A check that joins or moves the results of others gives a result just if they do, and its result
is made from theirs (`Checked.both_eq_ok`, `Checked.under_eq_ok`, `Checked.map_eq_ok`).  From
these equations on, what is known of a result can be read off the parts of its check.

Of settings, the sentinel is the part with a rule of its own: in all that is accepted it is one
line and not empty (`Settings.oneLine_of_ofData`).
-/

namespace LineCalc

open Text

namespace Checked

variable {α β : Type}

theorem both_eq_ok {a : Checked α} {b : Checked β} {x : α × β} :
    a.both b = .ok x ↔ a = .ok x.1 ∧ b = .ok x.2 := by
  cases a with
  | error problems => cases b <;> simp [both]
  | ok y => cases b <;> simp [both, Prod.ext_iff]

theorem mapError_eq_ok {ε : Type} {f : List Problem → ε} {a : Checked α} {x : α} :
    a.mapError f = .ok x ↔ a = .ok x := by
  cases a with
  | error problems =>
    constructor
    · rintro ⟨⟩
    · rintro ⟨⟩
  | ok y =>
    constructor
    · rintro ⟨⟩
      rfl
    · rintro ⟨⟩
      rfl

theorem under_eq_ok {place : Place} {a : Checked α} {x : α} :
    a.under place = .ok x ↔ a = .ok x :=
  mapError_eq_ok

theorem map_eq_ok {f : α → β} {a : Checked α} {y : β} :
    a.map f = .ok y ↔ ∃ x, a = .ok x ∧ f x = y := by
  cases a <;> simp [Except.map]

end Checked

/-- A field that is accepted has a datum that passes its check, or it is left out. -/
theorem checkField_eq_ok {α : Type} {key : Text} {check : Data → Checked α} {absent : Checked α}
    {entries : List (Scalar × Data)} {x : α} :
    checkField key check absent entries = .ok x ↔
      (∃ d, Data.lookup key entries = some d ∧ check d = .ok x) ∨
        Data.lookup key entries = none ∧ absent = .ok x := by
  rw [checkField]
  cases Data.lookup key entries with
  | none => simp [Checked.under_eq_ok]
  | some d => simp [Checked.under_eq_ok]

/-! ## Settings -/

/-- A text that can stand on a line of its own and be seen there. -/
structure OneLine (s : Text) : Prop where
  ne_nil : s ≠ []
  isLineEnd_eq_false : ∀ c ∈ s, isLineEnd c = false

namespace Settings

theorem checkSentinel_eq_ok {d : Data} {s : Text} :
    checkSentinel d = .ok s ↔ checkText d = .ok s ∧ OneLine s := by
  rw [checkSentinel]
  cases checkText d with
  | error problems =>
    constructor
    · intro h
      cases h
    · rintro ⟨h, -⟩
      cases h
  | ok t =>
    show (if t.isEmpty then Checked.fail .emptyText
      else if t.any isLineEnd then Checked.fail .severalLines else .ok t) = .ok s ↔
        (Except.ok t : Checked Text) = .ok s ∧ OneLine s
    split
    · next hempty =>
      constructor
      · intro h
        cases h
      · rintro ⟨heq, hline⟩
        obtain rfl := Except.ok.inj heq
        exact absurd (List.isEmpty_iff.1 hempty) hline.ne_nil
    · next hempty =>
      split
      · next hends =>
        constructor
        · intro h
          cases h
        · rintro ⟨heq, hline⟩
          obtain rfl := Except.ok.inj heq
          obtain ⟨c, hc, hend⟩ := List.any_eq_true.1 hends
          rw [hline.isLineEnd_eq_false c hc] at hend
          cases hend
      · next hends =>
        refine ⟨fun heq => ⟨heq, ?_⟩, And.left⟩
        obtain rfl := Except.ok.inj heq
        exact ⟨by simpa using hempty, by simpa using hends⟩

/-- The sentinel of the standard settings passes its own check. -/
theorem checkSentinel_standard :
    checkSentinel (.text ({} : Settings).sentinel) = .ok ({} : Settings).sentinel :=
  rfl

theorem oneLine_standard : OneLine ({} : Settings).sentinel :=
  (checkSentinel_eq_ok.1 checkSentinel_standard).2

/-- In settings that are accepted the sentinel is one line. -/
theorem oneLine_of_check {d : Data} {settings : Settings} (h : check d = .ok settings) :
    OneLine settings.sentinel := by
  cases d with
  | map entries =>
    rw [check] at h
    split at h
    · cases h
    · obtain ⟨⟨⟨sentinel, switches⟩, keys⟩, hboth, rfl⟩ := Checked.map_eq_ok.1 h
      obtain ⟨hfields, -⟩ := Checked.both_eq_ok.1 hboth
      obtain ⟨hsentinel, -⟩ := Checked.both_eq_ok.1 hfields
      rcases checkField_eq_ok.1 hsentinel with ⟨d, -, hchecked⟩ | ⟨-, habsent⟩
      · exact (checkSentinel_eq_ok.1 hchecked).2
      · obtain rfl := Except.ok.inj habsent
        exact oneLine_standard
  | _ => cases h

theorem oneLine_of_ofData {d : Data} {settings : Settings} (h : ofData d = .ok settings) :
    OneLine settings.sentinel :=
  oneLine_of_check (Checked.mapError_eq_ok.1 h)

end Settings

end LineCalc
