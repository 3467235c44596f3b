import LineCalc.Data
import LineCalc.Token

/-!
# The values of variables

An environment holds the values of the variables that have been assigned, in the order
of their first assignment.  A variable that has not been assigned is zero; reading it
does not assign it.

* `get` and `contains` read, `names` lists the assigned variables in ascending order,
  and `entries` in the order of assignment.
* `set` assigns to a letter, `assign` to a text that has to be one, and `assignData`
  assigns the number that a datum stands for.
* `ofPairs` makes the environment of initial values.

`Environment.Action` names these operations, so that a history of them is a list.
-/

namespace LineCalc

/-- The assigned variables with their values, in the order of first assignment. -/
structure Environment where
  entries : List (Char × Float)
  deriving DecidableEq

/-- Why nothing is assigned. -/
inductive AssignmentError where
  | rejected (reason : Rejection)
  | conversion (reason : ConversionError)
  deriving DecidableEq

namespace Environment

/-- The environment without assignments. -/
def empty : Environment := ⟨[]⟩

/-- The value of the letter `c`, if it has been assigned. -/
def value? (env : Environment) (c : Char) : Option Float :=
  env.entries.lookup c

/-- The value of a variable; zero if it has not been assigned, and for a text that is
not the name of a variable. -/
def get (env : Environment) : Text → Float
  | [c] => (env.value? c).getD 0
  | _ => 0

/-- Whether a variable has been assigned. -/
def contains (env : Environment) : Text → Bool
  | [c] => (env.value? c).isSome
  | _ => false

/-- The number of assigned variables. -/
def size (env : Environment) : Nat :=
  env.entries.length

/-- The assigned variables in ascending order. -/
def names (env : Environment) : List Char :=
  (env.entries.map Prod.fst).mergeSort (· ≤ ·)

/-- The assigned variables and their values, in ascending order of the variables. -/
def sorted (env : Environment) : List (Char × Float) :=
  env.entries.mergeSort (·.1 ≤ ·.1)

/-- The entries with the value of `c` replaced, or with `c` at the end. -/
def setEntry (c : Char) (x : Float) : List (Char × Float) → List (Char × Float)
  | [] => [(c, x)]
  | (d, y) :: rest => if d = c then (d, x) :: rest else (d, y) :: setEntry c x rest

/-- The environment after an assignment to the letter `c`. -/
def set (env : Environment) (c : Char) (x : Float) : Environment :=
  ⟨setEntry c x env.entries⟩

/-- The letter that a text names. -/
def target (name : Text) : Except Rejection Char :=
  match name with
  | [c] => if isLetter c then .ok c else .error (.badTarget name)
  | _ => .error (.badTarget name)

/-- The environment after an assignment to the variable with the given name. -/
def assign (env : Environment) (name : Text) (x : Float) : Except Rejection Environment :=
  (target name).map fun c => env.set c x

/-- The environment after an assignment of the number that a datum stands for.  The
name is checked before the datum. -/
def assignData (env : Environment) (name : Text) (d : Data) :
    Except AssignmentError Environment :=
  match target name with
  | .error r => .error (.rejected r)
  | .ok c =>
    match d.toFloat with
    | .error e => .error (.conversion e)
    | .ok x => .ok (env.set c x)

/-- The pairs with the values of a repeated name joined: it keeps its first place and
its last value. -/
def mergePairs (pairs : List (Text × Data)) : List (Text × Data) :=
  pairs.foldl (fun merged pair => put pair merged) []
where
  /-- The pairs with the value of a name replaced, or with the pair at the end. -/
  put (pair : Text × Data) : List (Text × Data) → List (Text × Data)
    | [] => [pair]
    | (name, d) :: rest =>
      if name = pair.1 then (name, pair.2) :: rest else (name, d) :: put pair rest

/-- The environment of initial values. -/
def ofPairs (pairs : List (Text × Data)) : Except AssignmentError Environment :=
  (mergePairs pairs).foldlM (fun env pair => env.assignData pair.1 pair.2) empty

/-- An environment as one line for the reader of the program. -/
def shown (env : Environment) : String :=
  let entries := env.entries.map fun (c, x) =>
    s!"{Text.quoted [c]}: {String.ofList (printNumber x)}"
  "Environment(\x7b" ++ ", ".intercalate entries ++ "\x7d)"

/-! ## Histories -/

inductive Action where
  | get (name : Text)
  | set (name : Text) (value : Data)
  | snapshot
  | clear
  | contains (key : Data)
  | shown

/-- What an operation answers. -/
inductive Reply where
  | nothing
  | number (value : Float)
  | entries (entries : List (Char × Float))
  | flag (value : Bool)
  | line (text : String)
  | refused (reason : AssignmentError)
  /-- A list or a mapping is no key; the kind of what was given. -/
  | unhashable (kind : String)

/-- Whether a scalar is the name of an assigned variable. -/
def containsKey (env : Environment) : Scalar → Bool
  | .text name => env.contains name
  | _ => false

/-- The answer to an operation, and the environment after it. -/
def perform (env : Environment) : Action → Reply × Environment
  | .get name => (.number (env.get name), env)
  | .set name value =>
    match env.assignData name value with
    | .ok env' => (.nothing, env')
    | .error e => (.refused e, env)
  | .snapshot => (.entries env.entries, env)
  | .clear => (.nothing, empty)
  | .contains (.scalar key) => (.flag (env.containsKey key), env)
  | .contains (.list _) => (.unhashable "list", env)
  | .contains (.map _) => (.unhashable "dict", env)
  | .shown => (.line env.shown, env)

/-! ## What assignment does to the values -/

@[simp] theorem value?_empty (c : Char) : empty.value? c = none := rfl

theorem value?_set (env : Environment) (c d : Char) (x : Float) :
    (env.set c x).value? d = if d = c then some x else env.value? d := by
  simp only [value?, set]
  induction env.entries with
  | nil => simp only [setEntry, List.lookup_cons, List.lookup_nil]; split <;> simp_all
  | cons entry rest ih =>
    obtain ⟨e, y⟩ := entry
    by_cases hd : d = e
    · subst hd
      by_cases hc : d = c <;> simp [setEntry, hc]
    · have hde : (d == e) = false := by simpa using hd
      by_cases he : e = c
      · subst he
        simp [setEntry, List.lookup_cons, hd, hde]
      · simp [setEntry, he, List.lookup_cons, ih, hde]

theorem get_set (env : Environment) (c : Char) (x : Float) (name : Text) :
    (env.set c x).get name = if name = [c] then x else env.get name := by
  unfold get
  split
  · next d =>
    rw [value?_set]
    by_cases hd : d = c <;> simp [hd]
  · next hname => rw [if_neg (hname c)]

/-- Assignment keeps the order of the variables and puts a new one at the end. -/
theorem entries_set (env : Environment) (c : Char) (x : Float) :
    (env.set c x).entries.map Prod.fst =
      if c ∈ env.entries.map Prod.fst then env.entries.map Prod.fst
      else env.entries.map Prod.fst ++ [c] := by
  simp only [set]
  induction env.entries with
  | nil => simp [setEntry]
  | cons entry rest ih =>
    obtain ⟨e, y⟩ := entry
    by_cases he : e = c
    · simp [setEntry, he]
    · by_cases hc : c ∈ rest.map Prod.fst <;>
        simp_all [setEntry, Ne.symm he, eq_comm]

end Environment

end LineCalc
