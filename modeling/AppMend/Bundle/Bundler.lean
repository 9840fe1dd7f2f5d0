import AppMend.Bundle.Compile
import AppMend.Bundle.Discovery
import AppMend.Bundle.Registry

/-!
# Bundling

A bundle is made of the modules that the entry reaches, or it is not made at all. A script holds the
bodies of the modules in a registry. A file map holds the files as they are; there every import that looks
like a file has to be one, because the host would take it for a package.
-/

namespace AppMend

namespace BundleConfig

/-- The entry: the one asked for if it is there, or else the first candidate that is. -/
def detectEntry (c : BundleConfig) (files : FileSet) (entry : Option String) :
    Except BundleFailure String :=
  match entry.bind files.get? with
  | some f => .ok f.path
  | none =>
    match c.entryCandidates.findSome? files.get? with
    | some f => .ok f.path
    | none => .error (.noEntry c.entryCandidates)

end BundleConfig

namespace Bundle

/-- The first specifier that names a file of the app and is none. -/
def dangling? (aliases : Aliases) : List (String × Resolution) → Option String
  | [] => none
  | (specifier, r) :: rest =>
    if r.isOutside && Resolution.isLocal aliases specifier then some specifier
    else dangling? aliases rest

/-- Reads a module for a script: its body, and what its imports stand for. -/
def visitForScript (files : FileSet) (aliases : Aliases) (path : String) :
    Except BundleFailure (String × List Resolution) :=
  match files.get? path with
  | none => .error (.missing path)
  | some f => do
    let resolve := Resolution.of files aliases path
    let body ← compileFile f resolve
    pure (body.code, body.requests.map resolve)

/-- Reads a module for a file map: its text, and what its imports stand for. -/
def visitForFileMap (files : FileSet) (aliases : Aliases) (path : String) :
    Except BundleFailure (String × List Resolution) :=
  match files.get? path with
  | none => .error (.missing path)
  | some f => do
    let names ← importsOfFile f
    let resolved := names.map fun n => (n, Resolution.of files aliases path n)
    match dangling? aliases resolved with
    | some specifier => .error (.unresolved path specifier)
    | none => pure (f.content, resolved.map (·.2))

/-! ## Packages -/

/-- The versions in one of the lists of a package file. -/
def versionsIn (package : Json.Value) (key : String) : List (String × String) :=
  ((package.field? key).bind Json.Value.obj?).getD [] |>.filterMap fun (name, v) =>
    v.str?.map fun version => (name, version)

/-- The versions that the package file of a set declares. -/
def declaredVersions (files : FileSet) : Table String :=
  match files.get? "package.json" with
  | none => []
  | some f =>
    match Json.read f.content.toList with
    | .error _ => []
    | .ok package =>
      Table.ofList (versionsIn package "dependencies" ++ versionsIn package "devDependencies")

/-- The packages that provide what is left to the host, with the versions that are declared. -/
def dependencies (files : FileSet) (aliases : Aliases) (externals : List String) : Table String :=
  let declared := declaredVersions files
  Table.ofList ((externals.filter (!Resolution.isLocal aliases ·)).map fun specifier =>
    let package := Resolution.packageName specifier
    (package, (declared.get? package).getD "latest"))

end Bundle

open Bundle in
/-- Bundles the files that the entry reaches. -/
def BundleConfig.bundle (c : BundleConfig) (files : FileSet) (entry : Option String) :
    Except BundleFailure BundleArtifact := do
  let start ← c.detectEntry files entry
  let visit := match c.strategy with
    | .script => visitForScript files c.aliases
    | .fileMap => visitForFileMap files c.aliases
  let reached ← discover visit (files.size + 1) [start] [start]
  let externalized := externalsOf reached
  let parts := reached.map fun m => (m.path, m.result)
  pure
    { entryPoint := start
      externalized
      modules := reached.map (·.path)
      output := match c.strategy with
        | .script => .script (registryScript start parts)
        | .fileMap => .fileMap (Table.ofList parts) (dependencies files c.aliases externalized) }

end AppMend
