import AppMend.Text.Lines
import AppMend.Text.Pattern

/-!
# Quotes of import paths

An import whose path opens with one kind of quotation mark and closes with the other is repaired: the
closing mark becomes like the opening one. A clause of bindings may span lines, but it begins on a line
of its own, and the path stays on one line.
-/

namespace AppMend.Check

open Text Pattern

/-- A quotation mark. -/
private def quoteMark : Pattern := oneOf "'\""

/-- A character of the bindings of an import. -/
private def isBindingChar (c : Char) : Bool := isWord c || isBlank c || "\x7b\x7d,*$".toList.contains c

/-- The head of an import or export, up to its path. -/
def importHead : Pattern := all [blanks,
  any [
    all [any [word "import", word "export"], wordEdge, few (one isBindingChar), wordEdge,
      word "from", blanks],
    all [word "import", blanks]]]

/-- The head of an import or export (1), the opening mark (2), the path (3) and the closing mark (4). -/
def importQuotes : Pattern := all [
  lineStart,
  group 1 importHead,
  group 2 quoteMark,
  group 3 (many (noneOf "'\"\n")),
  group 4 quoteMark]

/-- The import paths of a text whose marks differ. -/
def mismatches (s : List Char) : List Found :=
  (importQuotes.findAll s).filter fun f => f.group s 2 != f.group s 4

/-- The offset of the opening mark. -/
def openingMark (f : Found) : Nat := ((f.span? 2).map (·.1)).getD 0

/-- The text with the closing mark of a match made like the opening one. -/
def mendMark (s : List Char) (f : Found) : List Char :=
  match f.span? 4 with
  | some (a, _) => s.set a ((f.group s 2).headD '"')
  | none => s

/-- The text with every mismatched closing mark replaced, and the lines on which one was; none when
there is nothing to repair. -/
def repairQuotes (s : List Char) : Option (List Char × List Nat) :=
  let fs := mismatches s
  if fs.isEmpty then none
  else some (fs.foldl mendMark s, fs.map fun f => lineAt s (openingMark f))

end AppMend.Check
