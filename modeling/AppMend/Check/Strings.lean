import AppMend.Text.Lines
import AppMend.Text.Letter

/-!
# Strings left open at the end of a line

The scan goes through a text line by line and keeps one thing from line to line: whether it is inside
a template or a block comment. A line on which a quoted string opens and does not close is listed. A
line that begins as a comment is passed over, and a single quote between two letters is an apostrophe.
-/

namespace AppMend.Check

open Text

/-- Where the scan stands within a line. -/
inductive Spot where
  | code
  | lineComment
  | quoted (mark : Char)
  /-- After a backslash within a quoted string. -/
  | quotedEscape (mark : Char)
  | template
  /-- After a backslash within a template. -/
  | templateEscape
  | blockComment
  /-- Before the star that opens a block comment. -/
  | blockOpening
  /-- Before the slash that closes a block comment. -/
  | blockClosing
deriving DecidableEq, Inhabited

namespace Spot

/-- Whether a quotation mark in code opens a string, given the characters next to it. -/
def opens (mark : Char) (prev next : Option Char) : Bool :=
  !(mark == '\'' && (prev.map isLetter).getD false && (next.map isLetter).getD false)

/-- Takes in one character, between the one before it and the one after it on the line. -/
def step (spot : Spot) (prev : Option Char) (c : Char) (next : Option Char) : Spot :=
  match spot with
  | lineComment => lineComment
  | quoted mark => if c = '\\' then quotedEscape mark else if c = mark then code else quoted mark
  | quotedEscape mark => quoted mark
  | template =>
    if c = '\\' then templateEscape else if c = Char.ofNat 96 then code else template
  | templateEscape => template
  | blockComment => if c = '*' ∧ next = some '/' then blockClosing else blockComment
  | blockOpening => blockComment
  | blockClosing => code
  | code =>
    if c = '/' ∧ next = some '/' then lineComment
    else if c = '/' ∧ next = some '*' then blockOpening
    else if c = Char.ofNat 96 then template
    else if (c = '\'' ∨ c = '"') ∧ opens c prev next then quoted c
    else code

/-- Goes through the rest of a line, where `prev` is the character before it. -/
def scan (spot : Spot) (prev : Option Char) : List Char → Spot
  | [] => spot
  | c :: s => scan (spot.step prev c s.head?) (some c) s

/-- What is kept at the end of a line: templates and block comments go on, all else ends with it. -/
def carry : Spot → Spot
  | template | templateEscape => template
  | blockComment | blockOpening => blockComment
  | _ => code

def isQuoted : Spot → Bool
  | quoted _ | quotedEscape _ => true
  | _ => false

end Spot

/-- Whether a line is passed over when it begins in code. -/
def isCommentLine (line : List Char) : Bool :=
  match line.dropWhile isBlank with
  | '/' :: '/' :: _ => true
  | '*' :: _ => true
  | _ => false

/-- The lines among the given ones on which a string is left open, counted from `n`. -/
def openStringsFrom (n : Nat) (spot : Spot) : List (List Char) → List Nat
  | [] => []
  | line :: rest =>
    if spot = .code ∧ isCommentLine line then openStringsFrom (n + 1) spot rest
    else
      let after := spot.scan none line
      if after.isQuoted then n :: openStringsFrom (n + 1) after.carry rest
      else openStringsFrom (n + 1) after.carry rest

/-- The lines of a text, counted from one, at whose end a quoted string is still open. -/
def unterminatedStrings (s : List Char) : List Nat := openStringsFrom 1 .code (lines s)

end AppMend.Check
