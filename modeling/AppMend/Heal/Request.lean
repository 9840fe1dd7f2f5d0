import AppMend.Diagnosis

/-!
# Requests for new files

What the generator is asked for in one attempt, and why it may have no answer.
-/

namespace AppMend

structure RegenerationRequest where
  /-- What the app was made from. -/
  firstPrompt : String
  /-- The errors, one a line. -/
  errorContext : String
  /-- What to do about them. -/
  fixPrompt : String
  attemptNumber : Nat
  /-- The files to keep. -/
  retainedFiles : List String
  /-- The files to make anew, as they are. -/
  failedFiles : List File
deriving DecidableEq, Inhabited

namespace RegenerationRequest

/-- The request after a diagnosis of a set of files. -/
def of (prompt : String) (d : Diagnosis) (working : FileSet) (attempt : Nat) :
    RegenerationRequest where
  firstPrompt := prompt
  errorContext := d.errorContext
  fixPrompt := d.fixPrompt
  attemptNumber := attempt
  retainedFiles := d.retainedFiles
  failedFiles := d.failedFiles.filterMap working.get?

def toJson (r : RegenerationRequest) : Json.Value :=
  .object [("originalPrompt", r.firstPrompt), ("errorContext", r.errorContext),
    ("fixPrompt", r.fixPrompt), ("attemptNumber", .ofNat r.attemptNumber),
    ("retainedFiles", .arr (r.retainedFiles.map .str)),
    ("failedFiles", .arr (r.failedFiles.map File.toJson))]

end RegenerationRequest

/-- Why there are no new files. -/
inductive GeneratorError where
  | timeout (ms : Nat)
  | request (detail : String)
  /-- There was an answer that is none. -/
  | unusable (detail : String)
deriving DecidableEq, Inhabited

namespace GeneratorError

def message : GeneratorError → String
  | timeout ms => s!"Regeneration timed out after {ms}ms"
  | request e => "Regeneration request failed: " ++ e
  | unusable e => "Regeneration response could not be used: " ++ e

end GeneratorError

/-- New files, or why there are none. An answer without files is none. -/
abbrev Generated := Except GeneratorError (List File)

def Generated.checked : Generated → Generated
  | .ok [] => .error (.unusable "no files returned")
  | r => r

end AppMend
