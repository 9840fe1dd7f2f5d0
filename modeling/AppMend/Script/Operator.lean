/-!
# Operators

How strongly the binary operators bind. The reader and the printer of scripts go by the same table, so
that what is printed without parentheses is read back as it was.
-/

namespace AppMend.Script

/-- How strongly a binary operator binds, from the weakest at 6 to the strongest at 17. -/
def binaryStrength? : String → Option Nat
  | "??" => some 6
  | "||" => some 7
  | "&&" => some 8
  | "|" => some 9
  | "^" => some 10
  | "&" => some 11
  | "==" | "!=" | "===" | "!==" => some 12
  | "<" | ">" | "<=" | ">=" | "instanceof" | "in" => some 13
  | "<<" | ">>" | ">>>" => some 14
  | "+" | "-" => some 15
  | "*" | "/" | "%" => some 16
  | "**" => some 17
  | _ => none

/-- Whether an operator groups from the right. -/
def groupsRight (op : String) : Bool := op == "**"

/-- The signs that assign. -/
def assignmentSigns : List String := [
  "=", "+=", "-=", "*=", "/=", "%=", "**=", "<<=", ">>=", ">>>=", "&=", "|=", "^=", "&&=", "||=",
  "??="]

end AppMend.Script
