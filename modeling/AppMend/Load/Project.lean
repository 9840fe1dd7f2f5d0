import AppMend.Load.Document
import AppMend.Load.Ignore

/-!
# Loading a project

A path gives the files of a project: those of a directory, or those of a document. Of a directory come
the texts that no rule ignores. Names that begin with a point are hidden unless a rule keeps them, and
directories of results are passed over; both hold below the directory only, not for it.
-/

namespace AppMend

/-- Why a path gives no files. -/
inductive LoadFault where
  | unreadable (path : String) (why : PathFault)
  | notDocument (path : String) (why : Json.ReadError)
  | shape (why : ShapeFault)
  | noFiles (path : String)

namespace LoadFault

def message : LoadFault → String
  | unreadable path why => s!"failed to read {path}: {why.message}"
  | notDocument path why => s!"{path} is not valid JSON: {why.message}"
  | shape why => why.message
  | noFiles path => s!"no files found in {path}"

/-- What is told of the cause behind a fault, if there is one. -/
def cause? : LoadFault → Option String
  | unreadable _ why => some why.message
  | notDocument _ why => some why.message
  | shape _ | noFiles _ => none

end LoadFault

namespace Load

/-- Directories that hold results or what others wrote, never sources of the project. -/
def skippedDirectories : List String := ["node_modules", "dist", "build", "target"]

/-- Whether something below the directory of a project belongs to it, if the directory it lies in
does. -/
def admits (rules : List IgnoreFile) (place : List String) (isDirectory : Bool) : Bool :=
  let name := place.getLast?.getD ""
  let shown := match IgnoreFile.ruling rules place isDirectory with
    | some .ignored => false
    | some .kept => true
    | none => name.toList.head? != some '.'
  shown && !(isDirectory && skippedDirectories.contains name)

/-- Whether a file belongs to the project in a directory: all on the way to it does. -/
def belongs (rules : List IgnoreFile) (root place : List String) : Bool :=
  root.isPrefixOf place && (List.range (place.length - root.length)).all fun i =>
    let depth := root.length + i + 1
    admits rules (place.take depth) (depth < place.length)

/-- The file of a project in a directory; none for what is no text. -/
def fileAt? (root place : List String) (content : ByteArray) : Option File :=
  (String.fromUTF8? content).map (.of ("/".intercalate (place.drop root.length)))

/-- The files of the project in a directory. -/
def projectIn (t : Tree) (root : List String) : FileSet :=
  let rules := IgnoreFile.inTree t
  .ofList (t.files.filterMap fun (place, content) =>
    if belongs rules root place then fileAt? root place content else none)

/-- The files of a document. -/
def documentAt (t : Tree) (path : String) : Except LoadFault FileSet := do
  let text ← (t.readText path).mapError (.unreadable path)
  let v ← (Json.read text.toList).mapError (.notDocument path)
  (FileSet.ofDocument v).mapError .shape

end Load

/-- The files that a path gives; there is at least one. -/
def FileSet.load (t : Tree) (path : String) : Except LoadFault FileSet := do
  let directory? := (t.locate path).toOption.filter t.isDirectory
  let files ← match directory? with
    | some root => pure (Load.projectIn t root)
    | none => Load.documentAt t path
  if files.isEmpty then .error (.noFiles path) else pure files

end AppMend
