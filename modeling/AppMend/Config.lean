import AppMend.Bundle.Basic
import AppMend.Check.Analyzer
import AppMend.Preview.Config

/-!
# Settings

All that can be chosen about a run, each with its default.

A choice of a setting can be named by a word of a user. Letters of either case count as the same, and
some choices have further names. A word that names none is told together with those that do.
-/

namespace AppMend

/-- Whether a pass stops at the first stage that fails. -/
inductive RunMode where
  | failFast
  | comprehensive
deriving DecidableEq, Inhabited

namespace RunMode

def name : RunMode → String
  | failFast => "fail_fast"
  | comprehensive => "comprehensive"

def ofName? (s : String) : Option RunMode := [failFast, comprehensive].find? (·.name == s)

end RunMode

structure HealConfig where
  maxAttempts : Nat := 3
  regenerationTimeoutMs : Nat := 120000
deriving DecidableEq, Inhabited

structure Config where
  analyzer : Analyzer := .ast
  mode : RunMode := .failFast
  /-- The entry to prefer to the candidates. -/
  entry : Option String := none
  rules : Rules := {}
  bundle : BundleConfig := {}
  preview : PreviewConfig := {}
  heal : HealConfig := {}
deriving DecidableEq, Inhabited

/-! ## Names of choices -/

/-- A choice by its names; the first one is how it is listed. -/
abbrev Choices (α : Type) := List (List String × α)

/-- A word that names no choice. -/
structure UnknownChoice where
  what : String
  word : String
  listed : List String
deriving DecidableEq, Inhabited

def UnknownChoice.message (e : UnknownChoice) : String :=
  s!"Invalid {e.what} '{e.word}'. Valid values: " ++ ", ".intercalate e.listed

/-- A text with its ASCII capitals in lower case. -/
def lowerAscii (s : String) : String := s.map Char.toLower

/-- The choice that a word names. -/
def Choices.parse (what : String) (cs : Choices α) (word : String) : Except UnknownChoice α :=
  match cs.find? fun c => c.1.contains (lowerAscii word) with
  | some c => .ok c.2
  | none => .error ⟨what, lowerAscii word, cs.filterMap (·.1.head?)⟩

def Analyzer.parse (word : String) : Except UnknownChoice Analyzer :=
  Choices.parse "analyzer"
    [(["ast", "tree-sitter", "tree_sitter"], .ast), (["heuristic", "regex"], .heuristic)] word

def RunMode.parse (word : String) : Except UnknownChoice RunMode :=
  Choices.parse "run mode"
    [(["fail_fast", "fail-fast", "failfast"], .failFast), (["comprehensive", "all"], .comprehensive)] word

def BundleStrategy.parse (word : String) : Except UnknownChoice BundleStrategy :=
  Choices.parse "bundle strategy"
    [(["script"], .script), (["file_map", "file-map", "filemap"], .fileMap)] word

end AppMend
