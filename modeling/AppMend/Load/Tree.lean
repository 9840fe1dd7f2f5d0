import AppMend.Text.Lines

/-!
# Directory trees

A tree is the files below some directory, each by the names that lead to it, and the directories that
hold none. `locate` follows the text of a path through a tree.
-/

namespace AppMend

structure Tree where
  files : List (List String × ByteArray)
  /-- Directories that no file shows. -/
  directories : List (List String) := []
  /-- Where a path starts that does not start with a slash. -/
  here : List String := []
deriving Inhabited

/-- Why a path leads to no text. -/
inductive PathFault where
  | notFound
  /-- It goes on behind a file. -/
  | notDirectory
  | directory
  | notText
deriving DecidableEq, Inhabited

def PathFault.message : PathFault → String
  | notFound => "No such file or directory (os error 2)"
  | notDirectory => "Not a directory (os error 20)"
  | directory => "Is a directory (os error 21)"
  | notText => "stream did not contain valid UTF-8"

namespace Tree

/-- Whether names lead to a directory. -/
def isDirectory (t : Tree) (place : List String) : Bool :=
  place.isEmpty || t.files.any (fun f => place.isPrefixOf f.1.dropLast) ||
    t.directories.any (place.isPrefixOf ·)

/-- The content of the file that names lead to. -/
def content? (t : Tree) (place : List String) : Option ByteArray :=
  (t.files.find? (·.1 == place)).map (·.2)

/-- The place that names lead to from another. -/
def follow (t : Tree) (place : List String) : List String → Except PathFault (List String)
  | [] => .ok place
  | name :: names =>
    if !t.isDirectory place then .error .notDirectory
    else if name = "" ∨ name = "." then follow t place names
    else if name = ".." then follow t place.dropLast names
    else
      let next := place ++ [name]
      if t.isDirectory next ∨ (t.content? next).isSome then follow t next names else .error .notFound

/-- The place that a path leads to. -/
def locate (t : Tree) (path : String) : Except PathFault (List String) :=
  let names := (Text.stretches (· == '/') path.toList).map String.ofList
  match names with
  | [""] => .error .notFound
  | "" :: names => t.follow [] names
  | names => t.follow t.here names

/-- The text of the file that a path leads to. -/
def readText (t : Tree) (path : String) : Except PathFault String := do
  let place ← t.locate path
  match t.content? place with
  | none => .error .directory
  | some content =>
    match String.fromUTF8? content with
    | none => .error .notText
    | some text => .ok text

end Tree

end AppMend
