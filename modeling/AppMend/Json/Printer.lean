import AppMend.Json.Value

/-!
# Writing documents

The compact text of a value. A quotation mark and a backslash are escaped, and so are the control
characters: five by a letter, the others by their code point in four hexadecimal digits. Everything
else stands for itself.

The text of a value for a reader is laid out over several lines: an item or a field a line, two blanks
deeper than what holds it. What holds nothing stays on its line.
-/

namespace AppMend.Json

open AppMend.Number

/-- A hexadecimal digit in lower case. -/
def hexDigit (n : Nat) : Char := if n < 10 then Char.ofNat (48 + n) else Char.ofNat (87 + n)

/-- One character of a quoted text. -/
def escapeChar (c : Char) : List Char :=
  if c = '"' then ['\\', '"']
  else if c = '\\' then ['\\', '\\']
  else if c = '\n' then ['\\', 'n']
  else if c = '\r' then ['\\', 'r']
  else if c = '\t' then ['\\', 't']
  else if c = '\x08' then ['\\', 'b']
  else if c = '\x0c' then ['\\', 'f']
  else if c.toNat < 32 then
    ['\\', 'u', '0', '0', hexDigit (c.toNat / 16), hexDigit (c.toNat % 16)]
  else [c]

/-- A text in quotation marks. -/
def quoteChars (s : List Char) : List Char := '"' :: (s.flatMap escapeChar ++ ['"'])

/-- A text in quotation marks. -/
def quote (s : String) : String := String.ofList (quoteChars s.toList)

/-- A number; what is not finite has no number and is written as null. -/
def Numeral.text : Numeral → String
  | .int i => toString i
  | .float (.finite s m e) => Layout.document.text .double (.finite s m e)
  | .float _ => "null"

mutual

/-- The compact text of a value. -/
def Value.text : Value → String
  | .null => "null"
  | .bool true => "true"
  | .bool false => "false"
  | .num n => n.text
  | .str s => quote s
  | .arr items => "[" ++ itemsText items ++ "]"
  | .obj fields => "\x7b" ++ fieldsText fields ++ "\x7d"

def itemsText : List Value → String
  | [] => ""
  | [v] => v.text
  | v :: w :: vs => v.text ++ "," ++ itemsText (w :: vs)

def fieldsText : List (String × Value) → String
  | [] => ""
  | [(n, v)] => quote n ++ ":" ++ v.text
  | (n, v) :: f :: fs => quote n ++ ":" ++ v.text ++ "," ++ fieldsText (f :: fs)

end

/-! ## Over several lines -/

/-- A new line at a depth. -/
def newLine (depth : Nat) : String := "\n" ++ String.ofList (List.replicate (2 * depth) ' ')

mutual

/-- The text of a value at a depth. -/
def Value.indented (depth : Nat) : Value → String
  | .arr (v :: vs) => "[" ++ indentedItems (depth + 1) (v :: vs) ++ newLine depth ++ "]"
  | .obj (f :: fs) => "\x7b" ++ indentedFields (depth + 1) (f :: fs) ++ newLine depth ++ "\x7d"
  | v => v.text

def indentedItems (depth : Nat) : List Value → String
  | [] => ""
  | [v] => newLine depth ++ v.indented depth
  | v :: w :: vs => newLine depth ++ v.indented depth ++ "," ++ indentedItems depth (w :: vs)

def indentedFields (depth : Nat) : List (String × Value) → String
  | [] => ""
  | [(n, v)] => newLine depth ++ quote n ++ ": " ++ v.indented depth
  | (n, v) :: f :: fs =>
    newLine depth ++ quote n ++ ": " ++ v.indented depth ++ "," ++ indentedFields depth (f :: fs)

end

end AppMend.Json
