import AppMend.FileSet
import AppMend.Table
import AppMend.Text.Search

/-!
# Resolution of imports

What an import names is a file of the set or a package that the host provides. Resolution never fails:
what names no file is left to the host, even if it looks like a file.
-/

namespace AppMend

/-- The prefixes of imports that stand for directories. -/
abbrev Aliases := Table String

/-- What an import specifier stands for. -/
inductive Resolution where
  /-- A file of the set, by its canonical path. -/
  | inside (path : String)
  /-- A package, by the specifier as it is written. -/
  | outside (specifier : String)
deriving DecidableEq, Inhabited

namespace Resolution

def isOutside : Resolution → Bool
  | outside _ => true
  | inside _ => false

def inside? : Resolution → Option String
  | inside path => some path
  | outside _ => none

def outside? : Resolution → Option String
  | outside name => some name
  | inside _ => none

/-! ## Specifiers -/

/-- Packages that the host always provides. -/
def hostPackages : List String := ["react", "react-dom", "react-dom/client", "react/jsx-runtime"]

/-- The extensions tried, in this order, for a specifier without one. -/
def extensions : List String := ["tsx", "ts", "jsx", "js", "json", "css"]

def isRelative (specifier : String) : Bool :=
  specifier == "." || specifier == ".." || specifier.startsWith "./" || specifier.startsWith "../" ||
    specifier.startsWith "/"

/-- Whether a specifier names a file of the app and not a package: it is relative, absolute, or begins
with an alias. -/
def isLocal (aliases : Aliases) (specifier : String) : Bool :=
  isRelative specifier || aliases.any fun a => a.1.toList.isPrefixOf specifier.toList

/-- The package that provides a specifier: its first part, or its first two if it has a scope. -/
def packageName (specifier : String) : String :=
  let s := specifier.toList
  let first := s.takeWhile (· != '/')
  if first.head? = some '@' ∧ first.length < s.length then
    String.ofList (first ++ '/' :: (s.drop (first.length + 1)).takeWhile (· != '/'))
  else String.ofList first

/-! ## Probing -/

/-- The paths tried for a base without an exact match: with an extension, then an index within. -/
def candidates (base : String) : List String :=
  extensions.map (fun e => base ++ "." ++ e) ++ extensions.map fun e => Path.join base ("index." ++ e)

/-- The file that a base names: the file of that path, or the first of the candidates. -/
def probe (files : FileSet) (base : String) : Option String :=
  if base != "" && files.contains base then some (Path.normalize base)
  else ((candidates base).find? files.contains).map Path.normalize

/-- The file that a specifier names after an alias: in the directory of the alias, or else from the
root. -/
def probeAlias (files : FileSet) (directory rest : String) : Option String :=
  [Path.join directory rest, Path.normalize rest].findSome? (probe files)

/-- What follows the first alias that a specifier begins with, and the directory of that alias. -/
def aliasOf? (aliases : Aliases) (specifier : String) : Option (String × String) :=
  aliases.findSome? fun (lead, directory) =>
    (Text.dropStart? lead.toList specifier.toList).map fun rest => (directory, String.ofList rest)

/-- The base of a relative or absolute specifier in a file that imports it. -/
def base (importer specifier : String) : String :=
  if specifier.startsWith "/" then Path.normalize specifier
  else Path.join (Path.parent importer) specifier

/-- The file of the set that a specifier names in a file that imports it. -/
def find? (files : FileSet) (aliases : Aliases) (importer specifier : String) : Option String :=
  if hostPackages.contains specifier then none
  else if isRelative specifier then probe files (base importer specifier)
  else (aliasOf? aliases specifier).bind fun (directory, rest) => probeAlias files directory rest

/-- What a specifier stands for in a file that imports it. -/
def of (files : FileSet) (aliases : Aliases) (importer specifier : String) : Resolution :=
  match find? files aliases importer specifier with
  | some path => inside path
  | none => outside specifier

end Resolution

end AppMend
