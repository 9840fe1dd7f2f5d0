import AppMend.Check.Conventions
import AppMend.Check.Quotes
import AppMend.Check.Structure

/-!
# Analyzers and validation

An analyzer finds what is wrong with the structure of a file, and what is against the conventions. One
analyzer parses; the other goes by patterns and line scanners alone.

Validation of the structure repairs the quotes of imports first and looks at the repaired text. Each
repair is reported as a finding that fails nothing.
-/

namespace AppMend

/-- How files are analyzed. -/
inductive Analyzer where
  /-- By the outline of the parsed file. -/
  | ast
  /-- By patterns and line scanners. -/
  | heuristic
deriving DecidableEq, Inhabited

namespace Analyzer

def name : Analyzer → String
  | ast => "ast"
  | heuristic => "heuristic"

def ofName? (s : String) : Option Analyzer := [ast, heuristic].find? (·.name == s)

open Check

/-- How an analyzer that parses reads a file: without elements where type assertions in angle brackets
are allowed. -/
def dialectOf (f : File) : Outline.Dialect :=
  if f.language == .typescript then .assertions else .elements

def outlineOf (f : File) : Outline := .ofText (dialectOf f) f.content.toList

/-- The findings on the structure of a file whose quotes are repaired. -/
def structure_ (a : Analyzer) (f : File) : List Finding :=
  match a with
  | ast => structureFindings f (outlineOf f)
  | heuristic => scannerFindings f

/-- The issues in the markup of a file. -/
def issues (a : Analyzer) (f : File) : List MarkupIssue :=
  match a with
  | ast => outlineIssues f.content.toList (outlineOf f)
  | heuristic => patternIssues f.content.toList

/-- The findings against the conventions. -/
def quality (a : Analyzer) (f : File) (rules : Rules) : List Finding :=
  textFindings f rules ++ markupFindings f rules (a.issues f)

end Analyzer

namespace Check

def quoteFinding (path : String) (line : Nat) : Finding where
  kind := .mismatchedQuotes
  message := "Import path quotes did not match; closing quote rewritten"
  file := path
  line := some line
  autoFixed := true

/-- A file with its quotes repaired, and the lines of the repairs. -/
def repaired? (f : File) : Option (File × List Nat) :=
  (repairQuotes f.content.toList).map fun (s, ls) => (f.withContent (String.ofList s), ls)

/-- Whether a finding only repeats a repair on its line. -/
def isRepeated (lines : List Nat) (f : Finding) : Bool :=
  f.kind == .unterminatedString && f.line.any lines.contains

/-- The findings on one file, and its repaired version if it needed one. -/
def reviewFile (a : Analyzer) (f : File) : List Finding × Option File :=
  match repaired? f with
  | none => (a.structure_ f, none)
  | some (g, ls) =>
    (ls.map (quoteFinding f.path) ++ (a.structure_ g).filter (!isRepeated ls ·), some g)

/-- The review of the structure of all scripts in a set. -/
def reviewSyntax (a : Analyzer) (files : FileSet) : Review :=
  let each := files.codeFiles.map (reviewFile a)
  .ofFindings (each.flatMap (·.1)) (each.filterMap (·.2))

/-- The review of a set against the conventions; it repairs nothing. -/
def reviewQuality (a : Analyzer) (rules : Rules) (files : FileSet) : Review :=
  .ofFindings (files.codeFiles.flatMap fun f => a.quality f rules) []

end Check

end AppMend
