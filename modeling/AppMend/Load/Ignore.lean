import AppMend.Load.Glob
import AppMend.Load.Tree
import AppMend.Text.Search

/-!
# Ignore rules

A directory may hold files of rules about what lies below it. A rule is a line with a glob; of the rules
of a file the last one that names a path decides about it. `IgnoreFile.ruling` asks all files: a kind of
file goes before the next kind, and within a kind the file nearest to the path goes first.
-/

namespace AppMend

/-- What a rule says of a path that it names. -/
inductive Ruling where
  | ignored
  | kept
deriving DecidableEq, Inhabited

structure IgnoreRule where
  glob : Glob
  ruling : Ruling
  /-- The rule names nothing but directories. -/
  onlyDirectories : Bool

namespace IgnoreRule

/-- A line without the blanks at its end, unless the last of them stands behind a backslash. -/
def trimmed (line : List Char) : List Char :=
  if ['\\', ' '].isSuffixOf line then line else Text.trimEnd line

/-- What a line says of the paths it names, whether it names them from its directory on, and what names
them. -/
def opened : List Char → Ruling × Bool × List Char
  | '\\' :: '!' :: s => (.ignored, false, '!' :: s)
  | '\\' :: '#' :: s => (.ignored, false, '#' :: s)
  | '!' :: '/' :: s => (.kept, true, s)
  | '!' :: s => (.kept, false, s)
  | '/' :: s => (.ignored, true, s)
  | s => (.ignored, false, s)

/-- What names paths without the slash at its end, which a backslash may precede; whether there was
one. -/
def closed (s : List Char) : Bool × List Char :=
  match s.reverse with
  | '/' :: '\\' :: r => (true, r.reverse)
  | '/' :: r => (true, r.reverse)
  | _ => (false, s)

/-- The glob of what names paths. A text without a slash names them in every directory; one that ends in
any directories names what is in them, but not the directory before. -/
def globText (fromHere : Bool) (s : List Char) : List Char :=
  let s := if fromHere ∨ '/' ∈ s ∨ s = ['*', '*'] then s else ['*', '*', '/'] ++ s
  if ['/', '*', '*'].isSuffixOf s then s ++ ['/', '*'] else s

/-- The rule of a line; none for a comment, an empty line or what is no glob. -/
def ofLine? (line : List Char) : Option IgnoreRule :=
  let s := trimmed line
  if s.isEmpty ∨ s.head? = some '#' then none
  else
    let (ruling, fromHere, s) := opened s
    let (onlyDirectories, s) := closed s
    (Glob.parse? (globText fromHere s)).map fun glob => ⟨glob, ruling, onlyDirectories⟩

/-- Whether a rule is about a path, which is given from the directory of the rule on. -/
def names (r : IgnoreRule) (path : List String) (isDirectory : Bool) : Bool :=
  (!r.onlyDirectories || isDirectory) && r.glob.names ("/".intercalate path).toList

/-- The lines of a file up to the first that is no text. A mark of the byte order may precede them. -/
def linesOf (content : ByteArray) : List (List Char) :=
  let lines := ((Text.stretches (· == 10) content.toList).map fun l =>
    (String.fromUTF8? ⟨l.toArray⟩).map (·.toList)).takeWhile Option.isSome
  match lines.filterMap id with
  | first :: rest => first.dropWhile (· == Char.ofNat 0xFEFF) :: rest
  | [] => []

/-- The rules of a file. -/
def ofContent (content : ByteArray) : List IgnoreRule := (linesOf content).filterMap ofLine?

end IgnoreRule

/-- A file of rules. -/
structure IgnoreFile where
  /-- The place of its kind among the kinds. -/
  kind : Nat
  /-- The directory that its rules are about. -/
  directory : List String
  rules : List IgnoreRule

namespace IgnoreFile

/-- The kinds of files of rules, each by where it lies in its directory. -/
def kinds : List (List String) := [[".ignore"], [".gitignore"], [".git", "info", "exclude"]]

/-- A file of a tree as a file of rules. -/
def of? (path : List String) (content : ByteArray) : Option IgnoreFile :=
  (kinds.zipIdx.find? fun (name, _) => name.isSuffixOf path).map fun (name, kind) =>
    ⟨kind, path.take (path.length - name.length), IgnoreRule.ofContent content⟩

/-- The files of rules in a tree. -/
def inTree (t : Tree) : List IgnoreFile := t.files.filterMap fun (path, content) => of? path content

/-- What the rules of a file say of a path below its directory. -/
def rulingOf? (f : IgnoreFile) (path : List String) (isDirectory : Bool) : Option Ruling :=
  (f.rules.reverse.find? (·.names (path.drop f.directory.length) isDirectory)).map (·.ruling)

/-- What the files of rules say of a path. -/
def ruling (fs : List IgnoreFile) (path : List String) (isDirectory : Bool) : Option Ruling :=
  (List.range kinds.length).findSome? fun kind =>
    (List.range path.length).reverse.findSome? fun depth =>
      (fs.find? fun f => f.kind == kind && f.directory == path.take depth).bind
        (·.rulingOf? path isDirectory)

end IgnoreFile

end AppMend
