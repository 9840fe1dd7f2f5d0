import AppMend.Bundle.Failure
import AppMend.Bundle.Resolution

/-!
# Bundles

What a bundle is made for and what it holds. A bundle comes in one of two forms: a script that runs by
itself, or the files with the packages they need, for a host that bundles by itself.
-/

namespace AppMend

/-- How a bundle is packed. -/
inductive BundleStrategy where
  | script
  | fileMap
deriving DecidableEq, Inhabited

namespace BundleStrategy

def name : BundleStrategy → String
  | script => "script"
  | fileMap => "file_map"

def ofName? (s : String) : Option BundleStrategy := [script, fileMap].find? (·.name == s)

end BundleStrategy

structure BundleConfig where
  strategy : BundleStrategy := .script
  aliases : Aliases := [("@/", "src/")]
  /-- Paths that may be the entry, the first one found first. -/
  entryCandidates : List String :=
    ["main.tsx", "src/main.tsx", "index.tsx", "src/index.tsx", "App.tsx", "src/App.tsx"]
deriving DecidableEq, Inhabited

/-- What a bundle holds, by the way it is packed. -/
inductive BundleOutput where
  | script (code : String)
  /-- Files by path, and versions by package. -/
  | fileMap (files dependencies : Table String)
deriving DecidableEq, Inhabited

structure BundleArtifact where
  entryPoint : String
  /-- What is left to the host, in ascending order. -/
  externalized : List String
  /-- The modules in the order they were found. -/
  modules : List String
  output : BundleOutput
deriving DecidableEq, Inhabited

namespace BundleArtifact

/-- The script, if the bundle is one. -/
def code? (a : BundleArtifact) : Option String :=
  match a.output with
  | .script code => some code
  | .fileMap .. => none

def strategy (a : BundleArtifact) : BundleStrategy :=
  match a.output with
  | .script _ => .script
  | .fileMap .. => .fileMap

private def tableJson (t : Table String) : Json.Value := .object (t.map fun (n, v) => (n, .str v))

def toJson (a : BundleArtifact) : Json.Value :=
  let fixed : List (String × Json.Value) := [
    ("entryPoint", .str a.entryPoint), ("externalized", .arr (a.externalized.map .str)),
    ("modules", .arr (a.modules.map .str)), ("strategy", .str a.strategy.name)]
  match a.output with
  | .script code => .object (fixed ++ [("code", .str code)])
  | .fileMap files dependencies =>
    .object (fixed ++ [("files", tableJson files), ("dependencies", tableJson dependencies)])

end BundleArtifact

end AppMend
