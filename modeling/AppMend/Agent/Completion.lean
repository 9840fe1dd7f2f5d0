import AppMend.File
import AppMend.Json.Printer
import AppMend.Json.Reader
import AppMend.Text.Pattern
import AppMend.Text.Search

/-!
# Completions

What a model answers is text. The document it was asked for may be fenced within other text; then only
the first fence counts. The document names the new files, in a list of entries or as contents by path.
-/

namespace AppMend

/-- New files, and what was said about them. -/
structure Completion where
  files : List File
  note : Option String := none
deriving DecidableEq, Inhabited

/-- Why a completion names no files. -/
inductive CompletionFault where
  | unreadable (e : Json.ReadError)
  /-- It is a document without files. -/
  | missingFiles
  | contentNotText (path : String)
  | badEntry (entry : Json.Value)
  | noFiles

namespace CompletionFault

def message : CompletionFault → String
  | unreadable e => "not JSON: " ++ e.message
  | missingFiles => "missing \"files\" in completion"
  | contentNotText path => s!"content of {path} is not a string"
  | badEntry entry => "file entry needs string path and content: " ++ entry.text
  | noFiles => "completion returned no files"

end CompletionFault

namespace Completion

/-- The mark of a fence. -/
def fenceMark : List Char := List.replicate 3 (Char.ofNat 96)

/-- A fence with its word and the lines in it, which are the first group. -/
def fence : Text.Pattern :=
  .all [.chars fenceMark, .many (.one Char.isAlpha), .blanks, .one (· == '\n'),
    .group 1 (.few (.one fun _ => true)), .chars fenceMark]

/-- What is in the first fence of a text, or all of it, without the blanks around. -/
def body (content : List Char) : List Char :=
  let inside := match fence.find? content with
    | some f => ((f.groups.find? (·.1 == 1)).map fun (_, start, stop) =>
        (content.drop start).take (stop - start)).getD content
    | none => content
  Text.trim inside

/-- The file of an entry. -/
def fileOfEntry (entry : Json.Value) : Except CompletionFault File :=
  match (entry.field? "path").bind Json.Value.str?, (entry.field? "content").bind Json.Value.str? with
  | some path, some content =>
    if path.isEmpty then .error (.badEntry entry) else .ok (.of path content)
  | _, _ => .error (.badEntry entry)

/-- The file of a path with its content. -/
def fileOfContent (path : String) (content : Json.Value) : Except CompletionFault File :=
  match content with
  | .str text => .ok (.of path text)
  | _ => .error (.contentNotText path)

/-- The files that a value names, in its order. -/
def filesOf : Json.Value → Except CompletionFault (List File)
  | .arr entries => entries.mapM fileOfEntry
  | .obj contents => contents.mapM fun c => fileOfContent c.1 c.2
  | _ => .error .missingFiles

/-- The completion that a document holds. -/
def ofDocument (v : Json.Value) : Except CompletionFault Completion := do
  let files ← match v with
    | .arr _ => filesOf v
    | v => filesOf ((v.field? "files").getD .null)
  if files.isEmpty then .error .noFiles
  else pure ⟨files, (v.field? "note").bind Json.Value.str?⟩

/-- The completion that a text holds. -/
def parse (content : String) : Except CompletionFault Completion :=
  match Json.read (body content.toList) with
  | .error e => .error (.unreadable e)
  | .ok v => ofDocument v

end Completion

end AppMend
