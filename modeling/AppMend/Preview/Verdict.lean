import AppMend.Json.Value

/-!
# Verdicts of a preview

What one rendering of an app showed: the issues that fail it, the warnings, and all messages of the
console. A rendering is good when it has no issue.
-/

namespace AppMend

inductive ConsoleLevel where
  | log
  | debug
  | info
  | warning
  | error
deriving DecidableEq, Inhabited

namespace ConsoleLevel

def name : ConsoleLevel → String
  | log => "log"
  | debug => "debug"
  | info => "info"
  | warning => "warning"
  | error => "error"

def ofName? (s : String) : Option ConsoleLevel :=
  [log, debug, info, warning, error].find? (·.name == s)

end ConsoleLevel

inductive PreviewIssueKind where
  | consoleError
  | reactError
  | networkError
  | uncaughtException
  | timeout
  /-- The browser could not do its part. -/
  | rendererFailure
deriving DecidableEq, Inhabited

namespace PreviewIssueKind

def name : PreviewIssueKind → String
  | consoleError => "console_error"
  | reactError => "react_error"
  | networkError => "network_error"
  | uncaughtException => "uncaught_exception"
  | timeout => "timeout"
  | rendererFailure => "renderer_failure"

def ofName? (s : String) : Option PreviewIssueKind :=
  [consoleError, reactError, networkError, uncaughtException, timeout, rendererFailure].find?
    (·.name == s)

end PreviewIssueKind

structure PreviewIssue where
  kind : PreviewIssueKind
  message : String
  /-- The file or the address that the issue is about. -/
  source : Option String := none
deriving DecidableEq, Inhabited

namespace PreviewIssue

def render (i : PreviewIssue) : String := s!"[{i.kind.name}] {i.message}"

def toJson (i : PreviewIssue) : Json.Value :=
  .objectOf [("kind", some i.kind.name), ("message", some i.message),
    ("source", i.source.map .str)]

end PreviewIssue

/-- A message of the console. -/
structure ConsoleMessage where
  level : ConsoleLevel
  text : String
deriving DecidableEq, Inhabited

structure Verdict where
  errors : List PreviewIssue := []
  warnings : List String := []
  messages : List ConsoleMessage := []
deriving DecidableEq, Inhabited

namespace Verdict

def isValid (v : Verdict) : Bool := v.errors.isEmpty

/-- The verdict on a rendering that was not made. -/
def failed (i : PreviewIssue) : Verdict := { errors := [i] }

def toJson (v : Verdict) : Json.Value :=
  .object [("isValid", v.isValid), ("errors", .arr (v.errors.map PreviewIssue.toJson)),
    ("warnings", .arr (v.warnings.map .str)),
    ("consoleMessages", .arr (v.messages.map fun m =>
      .object [("level", m.level.name), ("text", m.text)]))]

end Verdict

end AppMend
