import AppMend.Json.Reader
import AppMend.Script.Module

/-!
# Failures of bundling

Why a bundle could not be made. A failure is reported by its kind, a message, and the file it is about.
-/

namespace AppMend

inductive BundleErrorKind where
  | resolution
  | compilation
deriving DecidableEq, Inhabited

namespace BundleErrorKind

def name : BundleErrorKind → String
  | resolution => "resolution_failure"
  | compilation => "compile_failure"

def ofName? (s : String) : Option BundleErrorKind := [resolution, compilation].find? (·.name == s)

end BundleErrorKind

/-- A failure as it is reported. -/
structure BundleError where
  kind : BundleErrorKind
  message : String
  file : Option String := none
deriving DecidableEq, Inhabited

namespace BundleError

/-- The error in one line. -/
def text (e : BundleError) : String := e.kind.name ++ ": " ++ e.message

def toJson (e : BundleError) : Json.Value :=
  .objectOf [("kind", some e.kind.name), ("message", some e.message), ("file", e.file.map .str)]

end BundleError

/-- Why a bundle could not be made. -/
inductive BundleFailure where
  /-- None of the files that could be the entry is there. -/
  | noEntry (candidates : List String)
  /-- A file imports a file that is not there. -/
  | unresolved (importer specifier : String)
  /-- A module that was found is not in the set. -/
  | missing (path : String)
  | unreadable (path : String) (fault : Script.Fault)
  | badJson (path : String) (error : Json.ReadError)

namespace BundleFailure

def report : BundleFailure → BundleError
  | noEntry candidates =>
    { kind := .resolution
      message := "No entry point found; expected one of: " ++ ", ".intercalate candidates }
  | unresolved importer specifier =>
    { kind := .resolution
      message := s!"Cannot resolve '{specifier}' imported from {importer}"
      file := importer }
  | missing path =>
    { kind := .resolution, message := s!"Module '{path}' vanished from the file set" }
  | unreadable path fault =>
    { kind := .compilation, message := s!"Failed to compile {path}: {fault.message}", file := path }
  | badJson path error =>
    { kind := .compilation, message := s!"Invalid JSON in {path}: {error.message}", file := path }

end BundleFailure

end AppMend
