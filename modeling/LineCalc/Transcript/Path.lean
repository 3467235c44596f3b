import LineCalc.Text.Basic
import LineCalc.Text.Quoted

/-!
# Paths of files

A file is named by the path to it from a directory: the names of directories and of the
file with slashes between them.  Empty names and points between slashes say nothing.  A
path that begins with a slash does not begin at the directory.
-/

namespace LineCalc

/-- A path from a directory. -/
structure Path where
  /-- The slashes at the beginning. -/
  root : Text
  /-- The names on the way. -/
  names : List Text
  deriving DecidableEq

namespace Path

/-- The slashes at the beginning of a path that count: one for one of them and for more
than two, but two for two. -/
def rootOf (s : Text) : Text :=
  match s.takeWhile (· == '/') with
  | ['/', '/'] => ['/', '/']
  | '/' :: _ => ['/']
  | _ => []

/-- The path that a text writes. -/
def ofText (s : Text) : Path :=
  ⟨rootOf s, (Text.cutAt (· == '/') s).filter fun name => name ≠ [] ∧ name ≠ ['.']⟩

/-- The path as it is written, seen from a directory. -/
def shown (directory : Text) (p : Path) : Text :=
  let names := Text.join ['/'] p.names
  if p.root ≠ [] then p.root ++ names
  else if p.names = [] then directory
  else directory ++ '/' :: names

/-- The name of the file, with the empty text for a path without names. -/
def name (p : Path) : Text :=
  p.names.getLast?.getD []

/-- A name of a file without its ending.  An ending begins with the last point, but
neither at the beginning nor at the end of the name. -/
def stemOf (name : Text) : Text :=
  let ending := (name.reverse.takeWhile (· != '.')).length
  let length := name.length - ending - 1
  if ending = 0 ∨ length = 0 then name else name.take length

/-- The name of the file without its ending. -/
def stem (p : Path) : Text :=
  stemOf p.name

/-! ## Paths to no file -/

/-- Why there is no file that could be read at a path. -/
inductive Obstacle where
  /-- A name has the character with the number zero. -/
  | zero
  | tooLong
  /-- The path leads to a directory. -/
  | directory
  | absent
  deriving DecidableEq

/-- The name of the directory around a directory. -/
def above : Text := ['.', '.']

/-- The greatest number of bytes of a name. -/
def nameLimit : Nat := 255

/-- The number of bytes from which on a path is too long. -/
def pathLimit : Nat := 4096

/-- The number of bytes of a text. -/
def sizeOf (s : Text) : Nat :=
  s.foldl (fun size c => size + c.utf8Size) 0

/-- Whether a path is too long, or the first name on it that is looked for. -/
def isTooLong (p : Path) : Bool :=
  pathLimit ≤ sizeOf (Text.join ['/'] p.names) ||
    (p.names.dropWhile (· == above)).head?.any fun name => nameLimit < sizeOf name

/-- Why there is no file that could be read at a path, if the path itself says so. -/
def obstacle? (p : Path) : Option Obstacle :=
  if p.names.any (·.contains '\x00') then some .zero
  else if p.isTooLong then some .tooLong
  else if p.names.all (· == above) then some .directory
  else none

def Obstacle.message (path : Text) : Obstacle → String
  | .zero => "embedded null byte"
  | .tooLong => s!"[Errno 36] File name too long: {Text.quoted path}"
  | .directory => s!"[Errno 21] Is a directory: {Text.quoted path}"
  | .absent => s!"[Errno 2] No such file or directory: {Text.quoted path}"

end Path

end LineCalc
