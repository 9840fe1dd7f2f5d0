import AppMend.Check.Strings
import AppMend.Check.Tags
import AppMend.Finding

/-!
# Findings of the line scanners

Strings and tags left open, as findings on a file. These are all the structural findings of the
analyzer that does not parse, and the explanation that the other one tries first for a text that does
not parse.
-/

namespace AppMend.Check

def openStringFinding (path : String) (line : Nat) : Finding where
  kind := .unterminatedString
  message := "String literal is not terminated on this line"
  file := path
  line := line

def unclosedTagFinding (path : String) (frame : Frame) : Finding where
  kind := .missingClosingTag
  message := s!"<{String.ofList frame.1}> opened on line {frame.2} is never closed"
  file := path
  line := frame.2

/-- What the line scanners find in a file. -/
def scannerFindings (f : File) : List Finding :=
  (unterminatedStrings f.content.toList).map (openStringFinding f.path) ++
    (unclosedTags f.content.toList).map (unclosedTagFinding f.path)

end AppMend.Check
