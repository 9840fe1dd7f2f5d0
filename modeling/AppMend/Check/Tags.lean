import AppMend.Text.Letter

/-!
# Component tags left open

A component is an element whose name begins with a capital. The scan lists the component tags of a
text as events, an opening with its line or a closing, and a stack of open tags is run over the events.
A closing tag takes the innermost open tag of its name from the stack, and the tags above it are left
open for good. Comments up to the end of a line, self-closing tags and type arguments are no events.
-/

namespace AppMend.Check

open Text

/-- A character of a tag's name. -/
def isTagNamePart (c : Char) : Bool := isAsciiAlnum c || c == '_' || c == '$' || c == '.'

def isComponentName (name : List Char) : Bool := (name.head?.map Char.isUpper).getD false

/-- Whether what follows a name makes it a parameter of a type and not a tag. -/
def isTypeParameter (after : List Char) : Bool :=
  let rest := after.dropWhile isBlank
  rest.head? == some ',' || "extends ".toList.isPrefixOf rest

/-- Where the scan for the end of an opening tag stands. -/
inductive Attr where
  | plain
  | quoted (mark : Char)
  /-- After a backslash within a quoted value. -/
  | escaped (mark : Char)
deriving DecidableEq

/-- The end of an opening tag: whether it closes itself, the line feeds passed, and what follows. -/
structure TagEnd where
  selfClosing : Bool
  newlines : Nat
  rest : List Char
deriving DecidableEq

/-- Seeks the `>` of an opening tag past quoted values and braces; `depth` braces are open, `last` is
the last character that is no blank, and `n` line feeds were passed. Another `<` ends the search. -/
def tagEnd? (attr : Attr) (depth : Nat) (last : Char) (n : Nat) : List Char → Option TagEnd
  | [] => none
  | c :: s =>
    let last' := if isAsciiBlank c then last else c
    let n' := if c = '\n' then n + 1 else n
    match attr with
    | .escaped mark => tagEnd? (.quoted mark) depth last n s
    | .quoted mark =>
      if c = '\\' then tagEnd? (.escaped mark) depth last' n' s
      else if c = mark then tagEnd? .plain depth last' n' s
      else tagEnd? (.quoted mark) depth last' n' s
    | .plain =>
      if c = '"' ∨ c = '\'' ∨ c = Char.ofNat 96 then tagEnd? (.quoted c) depth last' n' s
      else if c = '\x7b' then tagEnd? .plain (depth + 1) last' n' s
      else if c = '\x7d' then tagEnd? .plain (depth - 1) last' n' s
      else if c = '>' ∧ depth = 0 then some ⟨last == '/', n', s⟩
      else if c = '<' ∧ depth = 0 then none
      else tagEnd? .plain depth last' n' s

/-- A tag of a component. -/
inductive TagEvent where
  | opened (name : List Char) (line : Nat)
  | closed (name : List Char)
deriving DecidableEq

/-- The last character of a stretch, or the one before it. -/
private def lastOr (d : Char) (s : List Char) : Char := s.getLast?.getD d

/-- The component tags from a place on: `prev` is the character before it and `line` its line. An
opening tag without an end is the last event. At most `fuel` characters are passed. -/
def tagEvents : Nat → Char → Nat → List Char → List TagEvent
  | 0, _, _, _ => []
  | _, _, _, [] => []
  | fuel + 1, prev, line, c :: s =>
    if c = '\n' then tagEvents fuel c (line + 1) s
    else if c = '/' ∧ s.head? = some '/' then
      tagEvents fuel '/' line (s.dropWhile (· ≠ '\n'))
    else if c ≠ '<' then tagEvents fuel c line s
    else if s.head? = some '/' then
      let name := (s.drop 1).takeWhile isTagNamePart
      let rest := (s.drop 1).dropWhile isTagNamePart
      (if isComponentName name then [.closed name] else []) ++
        tagEvents fuel (lastOr '/' name) line rest
    else
      let name := s.takeWhile isTagNamePart
      let after := s.dropWhile isTagNamePart
      if isTagNamePart prev || !isComponentName name || isTypeParameter after then
        tagEvents fuel c line s
      else
        match tagEnd? .plain 0 ' ' 0 after with
        | none => [.opened name line]
        | some e =>
          (if e.selfClosing then [] else [.opened name line]) ++
            tagEvents fuel '>' (line + e.newlines) e.rest

/-- An open tag: its name and its line. -/
abbrev Frame := List Char × Nat

/-- The open tags, the innermost first, and those left open for good. -/
structure TagStack where
  frames : List Frame
  left : List Frame

/-- Takes in one event. -/
def TagStack.step (t : TagStack) : TagEvent → TagStack
  | .opened name line => { t with frames := (name, line) :: t.frames }
  | .closed name =>
    match t.frames.dropWhile (·.1 != name) with
    | [] => t
    | _ :: outer => ⟨outer, t.left ++ (t.frames.takeWhile (·.1 != name)).reverse⟩

/-- The tags that are left open in the end, each list in the order of opening. -/
def TagStack.unclosed (t : TagStack) : List Frame := t.left ++ t.frames.reverse

/-- The component tags of a text that are opened and not closed, with their lines, in the order of
the lines. -/
def unclosedTags (s : List Char) : List Frame :=
  ((tagEvents s.length ' ' 1 s).foldl TagStack.step ⟨[], []⟩).unclosed.mergeSort
    fun a b => a.2 ≤ b.2

end AppMend.Check
