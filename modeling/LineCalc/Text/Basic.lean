/-!
# Texts

Everything a calculator reads or prints is a sequence of characters, held as a
list so that reading it is recursion on the data.  This module holds the
operations that are the same for every format:

* `trim` and `trimEnd` remove the characters of a class from both ends, or from
  the end only;
* `cutAt` cuts a text at each character of a class, so that a text with `n`
  such characters has `n + 1` parts;
* `words` keeps the parts that are not empty;
* `splitRuns` cuts a text at whole runs of characters of a class;
* `substitute` puts a text in place of a character;
* `char?` and `hexadecimal` go from a code point to its character and to its
  digits.

Messages that are only ever printed are strings; texts that are read back are
not.
-/

namespace LineCalc

/-- A sequence of characters. -/
abbrev Text := List Char

namespace Text

/-- The text without the characters of the class `p` at its end. -/
def trimEnd (p : Char → Bool) (s : Text) : Text :=
  (s.reverse.dropWhile p).reverse

/-- The text without the characters of the class `p` at either end. -/
def trim (p : Char → Bool) (s : Text) : Text :=
  trimEnd p (s.dropWhile p)

/-- The parts of a sequence of symbols, such as a text, between the symbols of the class
`p`.  There is one part more than there are such symbols. -/
def cutAt {α : Type} (p : α → Bool) : List α → List (List α)
  | [] => [[]]
  | c :: rest =>
    match cutAt p rest with
    | [] => [[c]]
    | part :: parts => if p c then [] :: part :: parts else (c :: part) :: parts

/-- The parts of a text between the characters of the class `p` that are not
empty. -/
def words (p : Char → Bool) (s : Text) : List Text :=
  (cutAt p s).filter fun part => !part.isEmpty

/-- What stands behind the first run of characters of the class `p` is shorter than the
text. -/
theorem length_behind_run {p : Char → Bool} {s rest : Text} {c : Char}
    (h : s.dropWhile (fun d => !p d) = c :: rest) : (rest.dropWhile p).length < s.length := by
  have hrest : (rest.dropWhile p).length ≤ rest.length := (List.dropWhile_sublist p).length_le
  have hs : (s.dropWhile fun d => !p d).length ≤ s.length := (List.dropWhile_sublist _).length_le
  rw [h, List.length_cons] at hs
  omega

/-- The parts of a text between the longest runs of characters of the class `p`.  Before a
run at the beginning and behind one at the end there is an empty part. -/
def splitRuns (p : Char → Bool) (s : Text) : List Text :=
  match _h : s.dropWhile (fun c => !p c) with
  | [] => [s]
  | _ :: rest => s.takeWhile (fun c => !p c) :: splitRuns p (rest.dropWhile p)
termination_by s.length
decreasing_by exact length_behind_run _h

/-- The sequence with `new` in place of every symbol `c`. -/
def substitute {α : Type} [DecidableEq α] (c : α) (new s : List α) : List α :=
  s.flatMap fun d => if d = c then new else [d]

/-- The parts one after another, with the text `sep` between them. -/
def join (sep : Text) (parts : List Text) : Text :=
  sep.intercalate parts

/-- The character with the given code point, for the values that are code points
of characters. -/
def char? (n : Nat) : Option Char :=
  if h : n.isValidChar then some (Char.ofNatAux n h) else none

/-- The number `n` in at least `width` hexadecimal digits, in lower case. -/
def hexadecimal (width n : Nat) : Text :=
  let digits := Nat.toDigits 16 n
  List.replicate (width - digits.length) '0' ++ digits

/-! ## What cutting keeps -/

theorem cutAt_ne_nil {α : Type} (p : α → Bool) (s : List α) : cutAt p s ≠ [] := by
  cases s with
  | nil => simp [cutAt]
  | cons c rest =>
    simp only [cutAt]
    split
    · simp
    · split <;> simp

/-- A text has one part more than it has characters of the class. -/
theorem length_cutAt (p : Char → Bool) (s : Text) :
    (cutAt p s).length = s.countP p + 1 := by
  induction s with
  | nil => rfl
  | cons c rest ih =>
    simp only [cutAt]
    split
    · next h => exact absurd h (cutAt_ne_nil p rest)
    · next part parts h =>
      rw [h] at ih
      by_cases hc : p c <;> simp_all

/-- A sequence without symbols of the class is one part. -/
theorem cutAt_eq_singleton {α : Type} {p : α → Bool} {s : List α} (h : ∀ c ∈ s, p c = false) :
    cutAt p s = [s] := by
  induction s with
  | nil => rfl
  | cons c rest ih =>
    have hc := h c List.mem_cons_self
    rw [cutAt, ih fun d hd => h d (List.mem_cons_of_mem _ hd)]
    simp [hc]

/-- A symbol of the class ends the parts before it. -/
theorem cutAt_append {α : Type} {p : α → Bool} {c : α} (hc : p c = true) (left right : List α) :
    cutAt p (left ++ c :: right) = cutAt p left ++ cutAt p right := by
  induction left with
  | nil =>
    rw [List.nil_append, cutAt]
    cases h : cutAt p right with
    | nil => exact absurd h (cutAt_ne_nil p right)
    | cons part parts => simp [cutAt, hc, h]
  | cons d left ih =>
    rw [List.cons_append, cutAt, ih, cutAt]
    cases h : cutAt p left with
    | nil => exact absurd h (cutAt_ne_nil p left)
    | cons part parts => by_cases hd : p d <;> simp [hd]

/-- The first symbol of the class ends the first part. -/
theorem cutAt_append_cons {α : Type} {p : α → Bool} {left : List α} {c : α}
    (hleft : ∀ d ∈ left, p d = false) (hc : p c = true) (right : List α) :
    cutAt p (left ++ c :: right) = left :: cutAt p right := by
  rw [cutAt_append hc, cutAt_eq_singleton hleft, List.singleton_append]

/-! ## Words -/

/-- A character of the class ends the words before it. -/
theorem words_append {p : Char → Bool} {c : Char} (hc : p c = true) (left right : Text) :
    words p (left ++ c :: right) = words p left ++ words p right := by
  rw [words, cutAt_append hc, List.filter_append]
  rfl

/-- A text without characters of the class is one word, unless it is empty. -/
theorem words_eq_singleton {p : Char → Bool} {s : Text} (hs : s ≠ [])
    (h : ∀ c ∈ s, p c = false) : words p s = [s] := by
  rw [words, cutAt_eq_singleton h]
  simp [hs]

/-! ## Substitution -/

section

variable {α : Type} [DecidableEq α] {c : α} {new : List α}

theorem substitute_append (left right : List α) :
    substitute c new (left ++ right) = substitute c new left ++ substitute c new right :=
  List.flatMap_append

theorem substitute_self : substitute c new [c] = new := by
  simp [substitute]

/-- Nothing is put in place of a symbol that is not there. -/
theorem substitute_of_not_mem {s : List α} (hc : c ∉ s) : substitute c new s = s := by
  induction s with
  | nil => rfl
  | cons d s ih =>
    rw [List.mem_cons, not_or] at hc
    have hcons : substitute c new (d :: s) = (if d = c then new else [d]) ++ substitute c new s :=
      List.flatMap_cons
    rw [hcons, if_neg (Ne.symm hc.1), ih hc.2]
    rfl

end

end Text

end LineCalc
