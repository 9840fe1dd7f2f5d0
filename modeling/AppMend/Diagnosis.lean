import AppMend.Bundle.Failure
import AppMend.Finding
import AppMend.Preview.Verdict
import AppMend.Table
import AppMend.Text.Pattern

/-!
# Diagnosis

What the stages report is brought to one form, an error with a category. The category that is to be
mended first gives the diagnosis its name. The files of the set are parted into those that the errors
implicate, which are to be made anew, and those to keep.

The stages are the checks that a set of files passes through, in their order.
-/

namespace AppMend

/-! ## Stages -/

inductive Stage where
  /-- Structure of the text, with repairs. -/
  | structural
  /-- Conventions of the project. -/
  | quality
  | bundle
  /-- Rendering in a browser. -/
  | preview
deriving DecidableEq, Inhabited

namespace Stage

def name : Stage → String
  | structural => "syntax"
  | quality => "quality"
  | bundle => "bundle"
  | preview => "preview"

def all : List Stage := [structural, quality, bundle, preview]

def ofName? (s : String) : Option Stage := all.find? (·.name == s)

/-- The stage and those after it. -/
def andLater (s : Stage) : List Stage := all.dropWhile (· != s)

end Stage

inductive ErrorCategory where
  /-- What is rendered is no component. -/
  | componentExport
  /-- A module is not found. -/
  | importError
  /-- A text that does not parse. -/
  | syntaxError
  | runtimeError
  /-- Something against the conventions. -/
  | qualityViolation
deriving DecidableEq, Inhabited

inductive Severity where
  | critical
  | major
  | minor
deriving DecidableEq, Inhabited

def Severity.name : Severity → String
  | critical => "critical"
  | major => "major"
  | minor => "minor"

namespace ErrorCategory

def name : ErrorCategory → String
  | componentExport => "component_export"
  | importError => "import_error"
  | syntaxError => "syntax_error"
  | runtimeError => "runtime_error"
  | qualityViolation => "quality_violation"

def ofName? (s : String) : Option ErrorCategory :=
  [componentExport, importError, syntaxError, runtimeError, qualityViolation].find? (·.name == s)

/-- What has the lowest number is mended first. -/
def priority : ErrorCategory → Nat
  | syntaxError => 1
  | importError => 2
  | componentExport => 3
  | runtimeError => 4
  | qualityViolation => 5

def severity : ErrorCategory → Severity
  | syntaxError | componentExport => .critical
  | importError | runtimeError => .major
  | qualityViolation => .minor

def description : ErrorCategory → String
  | componentExport =>
    "A component is not exported correctly: the rendered value is undefined or not a React component (check default vs named exports)"
  | importError =>
    "An import cannot be resolved: the module path is wrong, the file is missing, or the package is not available"
  | syntaxError =>
    "The source does not parse: unbalanced JSX, an unterminated string, or invalid syntax"
  | runtimeError => "The app throws or logs an error while rendering"
  | qualityViolation =>
    "Generated code violates project conventions (placeholders, missing imports, accessibility, styling or validation rules)"

/-- The phrases that tell a category, each category asked in this order. -/
def phrases : List (ErrorCategory × List String) := [
  (componentExport, ["element type is invalid", "expected a string (for built-in components)",
    "no default export", "does not provide an export named", "is not a valid react component"]),
  (importError, ["cannot find module", "module not found", "can't resolve", "cannot resolve",
    "failed to resolve", "not provided by the preview host"]),
  (syntaxError, ["syntaxerror", "unexpected token", "unexpected end of", "unterminated",
    "missing closing tag", "is never closed", "invalid or unexpected"])]

/-- The category of an error of which only the text is known. -/
def ofMessage (message : String) : ErrorCategory :=
  let found := phrases.find? fun (_, ps) =>
    ps.any fun p => (Text.Pattern.anyCase p).occursIn message.toList
  (found.map (·.1)).getD runtimeError

end ErrorCategory

/-- An error of any stage. -/
structure DiagnosticError where
  category : ErrorCategory
  /-- The stage that reported it. -/
  origin : Stage
  message : String
  file : Option String := none
  line : Option Nat := none
deriving DecidableEq, Inhabited

namespace DiagnosticError

def ofFinding (f : Finding) : DiagnosticError :=
  let (category, origin) :=
    if f.kind.isSyntax then (ErrorCategory.syntaxError, Stage.structural)
    else if f.kind = .missingImport then (.importError, .quality)
    else (.qualityViolation, .quality)
  { category, origin, message := s!"[{f.kind.name}] {f.message}", file := f.file, line := f.line }

def ofBundleError (e : BundleError) : DiagnosticError where
  category := match e.kind with
    | .compilation => .syntaxError
    | .resolution => .importError
  origin := .bundle
  message := e.text
  file := e.file

def ofPreviewIssue (i : PreviewIssue) : DiagnosticError where
  category := match i.kind with
    | .timeout | .networkError | .rendererFailure => .runtimeError
    | .consoleError | .reactError | .uncaughtException => .ofMessage i.message
  origin := .preview
  message := i.render

def render (e : DiagnosticError) : String :=
  match e.file, e.line with
  | some file, some line => s!"{file}:{line}: {e.message}"
  | some file, none => s!"{file}: {e.message}"
  | none, _ => e.message

def toJson (e : DiagnosticError) : Json.Value :=
  .objectOf [("category", some e.category.name), ("origin", some e.origin.name),
    ("message", some e.message), ("file", e.file.map .str), ("line", e.line.map .ofNat)]

end DiagnosticError

structure Diagnosis where
  category : ErrorCategory
  rootCause : String
  /-- The files to make anew, in ascending order. -/
  failedFiles : List String
  /-- The files to keep, in ascending order. -/
  retainedFiles : List String
  errors : List DiagnosticError
  /-- The number of the pass that failed, from zero. -/
  attempt : Nat
deriving DecidableEq, Inhabited

namespace Diagnosis

/-! ## Files that an error implicates -/

/-- A character of a path within a message. -/
def isPathPart (c : Char) : Bool := Text.isWord c || "@./-".toList.contains c

/-- A path within a message, told by its extension. -/
def pathPattern : Text.Pattern :=
  .all [.some1 (.one isPathPart), .one (· == '.'),
    .any (["tsx", "ts", "jsx", "js", "mjs", "cjs", "css", "json"].map Text.Pattern.word), .wordEdge]

/-- The paths that a message mentions. -/
def mentions (message : List Char) : List String :=
  (pathPattern.findAll message).map fun m =>
    String.ofList ((message.drop m.start).take (m.stop - m.start))

/-- The file of a set that a mentioned path stands for: the file of that path, or else the only one
whose path ends in it. -/
def mentioned? (files : FileSet) (mention : String) : Option String :=
  let path := Path.normalize mention
  match files.get? path with
  | some f => some f.path
  | none =>
    match files.paths.filter fun p => (("/" ++ path).toList.isSuffixOf p.toList) with
    | [only] => some only
    | _ => none

/-- The files of a set that an error names, or that its message mentions. -/
def implicated (files : FileSet) (e : DiagnosticError) : List String :=
  ((e.file.bind files.get?).map (·.path)).toList ++
    (mentions e.message.toList).filterMap (mentioned? files)

/-- The files to make anew: those that the errors implicate; if there are none, the entry; and if that
is not in the set, all that are checked. -/
def failedFilesOf (errors : List DiagnosticError) (files : FileSet) (entry : Option String) :
    List String :=
  match sortedTexts (errors.flatMap (implicated files)) with
  | [] =>
    match entry.bind files.get? with
    | some f => [f.path]
    | none => files.codeFiles.map (·.path)
  | failed => failed

/-- The first of the errors that are to be mended before all others. -/
def primary? : List DiagnosticError → Option DiagnosticError
  | [] => none
  | e :: es => some (es.foldl (fun a b => if b.category.priority < a.category.priority then b else a) e)

/-- The diagnosis of a pass, unless it had no error. -/
def make? (errors : List DiagnosticError) (files : FileSet) (entry : Option String)
    (attempt : Nat) : Option Diagnosis :=
  (primary? errors).map fun e =>
    let failed := failedFilesOf errors files entry
    { category := e.category
      rootCause := s!"{e.category.description} ({e.render})"
      failedFiles := failed
      retainedFiles := files.paths.filter fun p => !failed.contains p
      errors
      attempt }

/-- Any error makes a diagnosis. -/
theorem make?_eq_none_iff {errors : List DiagnosticError} {files : FileSet} {entry : Option String}
    {attempt : Nat} : make? errors files entry attempt = none ↔ errors = [] := by
  cases errors <;> simp [make?, primary?]

/-! ## Texts -/

def summary (d : Diagnosis) : String :=
  s!"{d.errors.length} error(s); primary {d.category.name} in " ++ ", ".intercalate d.failedFiles

/-- The errors, one a line. -/
def errorContext (d : Diagnosis) : String :=
  "\n".intercalate (d.errors.map fun e => s!"- [{e.category.name}] {e.render}")

/-- What to do about it. -/
def fixPrompt (d : Diagnosis) : String :=
  "The generated app failed verification.\n\nRoot cause (" ++ d.category.name ++ ", " ++
    d.category.severity.name ++ "): " ++ d.rootCause ++ "\n\nErrors:\n" ++ d.errorContext ++
    "\n\nFix these files: " ++ ", ".intercalate d.failedFiles ++ "\n" ++
    (if d.retainedFiles.isEmpty then ""
      else "Leave these files unchanged unless the fix requires it: " ++
        ", ".intercalate d.retainedFiles ++ "\n") ++
    "Return the complete contents of every file you change.\n"

def toJson (d : Diagnosis) : Json.Value :=
  .object [("severity", d.category.severity.name), ("category", d.category.name),
    ("priority", .ofNat d.category.priority), ("rootCause", d.rootCause),
    ("failedFiles", .arr (d.failedFiles.map .str)),
    ("retainedFiles", .arr (d.retainedFiles.map .str)), ("summary", d.summary),
    ("errors", .arr (d.errors.map DiagnosticError.toJson)), ("attempt", .ofNat d.attempt)]

end Diagnosis

end AppMend
