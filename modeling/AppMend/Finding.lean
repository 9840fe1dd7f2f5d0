import AppMend.FileSet

/-!
# Findings and reviews

A finding is one thing that is wrong with a file. A finding fails the review that holds it unless it
was repaired or its kind only warns. A review is what one pass over a file set found, with the files
it repaired; whether it is valid is read off its findings.

`Review.failureCount_merge` says that reviews combine like their findings.
-/

namespace AppMend

inductive FindingKind where
  | mismatchedQuotes
  | unterminatedString
  | missingClosingTag
  | invalidJsx
  | placeholder
  | missingImport
  | accessibility
  | validation
  | styling
  | quality
  | consoleLog
  | anyType
deriving DecidableEq, Inhabited

namespace FindingKind

def name : FindingKind → String
  | mismatchedQuotes => "mismatched_quotes"
  | unterminatedString => "unterminated_string"
  | missingClosingTag => "missing_closing_tag"
  | invalidJsx => "invalid_jsx"
  | placeholder => "placeholder"
  | missingImport => "missing_import"
  | accessibility => "accessibility"
  | validation => "validation"
  | styling => "styling"
  | quality => "quality"
  | consoleLog => "console_log"
  | anyType => "any_type"

def all : List FindingKind :=
  [mismatchedQuotes, unterminatedString, missingClosingTag, invalidJsx, placeholder, missingImport,
    accessibility, validation, styling, quality, consoleLog, anyType]

def ofName? (s : String) : Option FindingKind := all.find? (·.name == s)

/-- Whether a finding of this kind fails a review when it is not repaired. -/
def isBlocking : FindingKind → Bool
  | consoleLog | anyType => false
  | _ => true

/-- Whether findings of this kind are about the structure of the text. -/
def isSyntax : FindingKind → Bool
  | mismatchedQuotes | unterminatedString | missingClosingTag | invalidJsx => true
  | _ => false

end FindingKind

structure Finding where
  kind : FindingKind
  message : String
  file : String
  /-- The line, counted from one, if the finding has a place. -/
  line : Option Nat := none
  autoFixed : Bool := false
deriving DecidableEq, Inhabited

namespace Finding

/-- Blocking and not repaired. -/
def isFailure (f : Finding) : Bool := f.kind.isBlocking && !f.autoFixed

def isWarning (f : Finding) : Bool := !f.kind.isBlocking

/-- The finding as a line of a report. -/
def render (f : Finding) : String :=
  match f.line with
  | some n => s!"{f.file}:{n}: [{f.kind.name}] {f.message}"
  | none => s!"{f.file}: [{f.kind.name}] {f.message}"

def toJson (f : Finding) : Json.Value :=
  .objectOf [("kind", some f.kind.name), ("message", some f.message), ("file", some f.file),
    ("line", f.line.map Json.Value.ofNat), ("autoFixed", some f.autoFixed)]

end Finding

/-- What one pass over a file set found, and new versions of the files it repaired. -/
structure Review where
  isValid : Bool
  findings : List Finding
  fixedFiles : List File
deriving DecidableEq, Inhabited

namespace Review

/-- A review is valid when none of its findings fails it. -/
def ofFindings (findings : List Finding) (fixedFiles : List File) : Review where
  isValid := findings.all fun f => !f.isFailure
  findings
  fixedFiles

def failures (r : Review) : List Finding := r.findings.filter (·.isFailure)

def warnings (r : Review) : List Finding := r.findings.filter (·.isWarning)

def failureCount (r : Review) : Nat := r.failures.length

def warningCount (r : Review) : Nat := r.warnings.length

/-- Puts a file at the end, in place of one that has the same path. -/
def supersede (fs : List File) (f : File) : List File := fs.filter (·.path != f.path) ++ [f]

/-- Both passes together: their findings one after the other, and the later repair of each path. -/
def merge (a b : Review) : Review :=
  .ofFindings (a.findings ++ b.findings) (b.fixedFiles.foldl supersede a.fixedFiles)

def toJson (r : Review) : Json.Value :=
  .object [("isValid", r.isValid), ("findings", .arr (r.findings.map Finding.toJson)),
    ("fixedFiles", .arr (r.fixedFiles.map File.toJson))]

/-! ## Reviews combine like their findings -/

@[simp] theorem failureCount_merge (a b : Review) :
    (a.merge b).failureCount = a.failureCount + b.failureCount := by
  simp [merge, ofFindings, failureCount, failures]

theorem isValid_ofFindings (findings : List Finding) (fixedFiles : List File) :
    (ofFindings findings fixedFiles).isValid ↔ ∀ f ∈ findings, f.isFailure = false := by
  simp [ofFindings]

end Review

end AppMend
