import LineCalc.Transcript
import LineCalc.Transcript.Path
import LineCalc.Yaml.Document

/-!
# Transcript files

A transcript file is a document in UTF-8 that describes a transcript.  A transcript
without a name has the name of its file without the ending.

* `Transcript.load` reads one file of a directory;
* `Transcript.loadAll` reads those files of a directory whose names end in `.yaml`, in
  the order of their names.
-/

namespace LineCalc

/-- Why a file gives no transcript. -/
inductive LoadError where
  /-- There is no file at the path that could be read. -/
  | unreachable (path : Text) (obstacle : Path.Obstacle)
  /-- The file at the path is no document. -/
  | malformed (path : Text)
  /-- A part of the document stands for nothing. -/
  | faulty (fault : Yaml.Fault)
  /-- The document at the path describes nothing. -/
  | empty (path : Text)
  /-- The document at the path describes something other than a mapping. -/
  | notMapping (path : Text)
  | invalid (error : ValidationError)

namespace LoadError

def message : LoadError → String
  | .unreachable path obstacle => obstacle.message path
  | .malformed path => s!"YAML parse error in {String.ofList path}"
  | .faulty fault => fault.message
  | .empty path => s!"Transcript file is empty: {String.ofList path}"
  | .notMapping path => s!"Transcript must be a mapping: {String.ofList path}"
  | .invalid error => error.kind

/-- The error for a fault of the document at a path. -/
def ofFault (path : Text) : Yaml.Fault → LoadError
  | .malformed => .malformed path
  | .unfinished => .malformed path
  | fault => .faulty fault

end LoadError

/-- A file of a directory. -/
structure File where
  name : Text
  content : List UInt8

namespace File

/-- The name of a file of a directory without what says nothing in it, unless the name is a
path into another directory. -/
def plainName? (name : Text) : Option Text :=
  match Path.ofText name with
  | ⟨[], [name]⟩ => some name
  | _ => none

/-- The ending of the names of transcript files. -/
def ending : Text := ".yaml".toList

/-- The files whose names end as those of transcript files do, in the order of their
names.  Of several files with one name, the last one counts. -/
def transcripts (files : List File) : List File :=
  let named := files.filterMap fun file =>
    (plainName? file.name).map fun name => { file with name }
  let chosen := named.filter fun file => ending.isSuffixOf file.name
  (chosen.foldl put []).mergeSort fun a b => String.ofList a.name ≤ String.ofList b.name
where
  /-- The files with one more file, in the place of a file with the same name. -/
  put (files : List File) (file : File) : List File :=
    files.filter (·.name ≠ file.name) ++ [file]

end File

namespace Transcript

/-- The transcript that a document at a path describes.  It has the name `name` unless the
document names it. -/
def ofDocument (path name : Text) (document : Yaml.Document) : Except LoadError Transcript :=
  match document.data with
  | .scalar .null => .error (.empty path)
  | .map _ => (ofData (document.withDefault nameKey name).data).mapError .invalid
  | _ => .error (.notMapping path)

/-- The transcript in the file of a directory with the given name and content; without a
content there is no such file. -/
def load (directory name : Text) (content : Option (List UInt8)) :
    Except LoadError Transcript := do
  let path := Path.ofText name
  let shown := path.shown directory
  match path.obstacle?, content with
  | some obstacle, _ => .error (.unreachable shown obstacle)
  | none, none => .error (.unreachable shown .absent)
  | none, some bytes =>
    let document ← (Yaml.read bytes).mapError (LoadError.ofFault shown)
    ofDocument shown path.stem document

/-- The transcripts in the transcript files of a directory, or the first error. -/
def loadAll (directory : Text) (files : List File) : Except LoadError (List Transcript) :=
  (File.transcripts files).mapM fun file => load directory file.name (some file.content)

end Transcript

end LineCalc
