import AppMend.Text.Search

/-!
# Comments of a script

A comment leads to the token after it, unless it trails the token before it on its line. Some comments
say something of their own: that a call may be left out when its value is not used, that a function has
no effects, or how elements are to be written.
-/

namespace AppMend.Script

open Text

/-- A character that ends a line. -/
def isLineEnd (c : Char) : Bool :=
  c == '\n' || c == '\r' || c == '\u2028' || c == '\u2029'

/-- A blank within a line. -/
def isInlineBlank (c : Char) : Bool :=
  c == '\ufeff' || (isBlank c && !isLineEnd c && c.toNat != 0x85)

structure Comment where
  /-- The comment with its marks. -/
  text : List Char
  /-- Whether it runs to the end of its line. -/
  isLine : Bool
  afterNewline : Bool
  beforeNewline : Bool
  /-- Whether it leads to the token after it. -/
  leads : Bool
deriving DecidableEq, Inhabited

namespace Comment

/-- What stands between the marks. -/
def content (c : Comment) : List Char :=
  if c.isLine then c.text.drop 2 else (c.text.drop 2).take (c.text.length - 4)

/-- Whether a comment documents what follows: it begins with two stars. -/
private def documents (c : Comment) : Bool :=
  !c.isLine && c.content.head? == some '*' && !c.content.all (· == '*')

/-- What a comment says after its first blanks, unless it documents or is to be kept for its own sake. -/
private def remarks (c : Comment) (what : String) : Bool :=
  c.content.head? != some '!' && !c.documents &&
    ["@", "#"].any fun mark => (mark ++ what).toList.isPrefixOf (c.content.dropWhile isAsciiBlank)

/-- Whether the call after the comment has no effects. -/
def marksPure (c : Comment) : Bool := c.remarks "__PURE__"

/-- Whether calls of the function after the comment have no effects. -/
def marksEffectFree (c : Comment) : Bool := c.remarks "__NO_SIDE_EFFECTS__"

/-- Whether a comment is to be kept for its own sake. -/
def isLegal (c : Comment) : Bool :=
  c.content.head? == some '!' || occursIn "@license".toList c.content ||
    occursIn "@preserve".toList c.content

/-- Whether a block comment stands on one line. -/
def isOneLine (c : Comment) : Bool := c.text.all fun d => d != '\n' && d != '\r'

end Comment

/-! ## How elements are written -/

/-- What comments say about the writing of elements. -/
structure Pragmas where
  /-- The function that creates an element. -/
  factory : Option String := none
  /-- What stands for a fragment. -/
  fragment : Option String := none
  /-- Whether the functions for elements are imported rather than named. -/
  isAutomatic : Bool := false
  /-- Where they are imported from. -/
  source : Option String := none
deriving DecidableEq, Inhabited

namespace Pragmas

private def isGapBlank (c : Char) : Bool := c == ' ' || c == '\t'

/-- Goes through the text of a comment from one at sign to the next. -/
private def readFrom : Nat → List Char → Pragmas → Pragmas
  | 0, _, p => p
  | fuel + 1, s, p =>
    match s.dropWhile (· != '@') with
    | [] => p
    | _ :: s =>
      match dropStart? "jsx".toList s with
      | none => readFrom fuel s p
      | some s =>
        let word := s.takeWhile (!isGapBlank ·)
        let rest := s.drop (word.length + 1)
        if word.length == s.length then p
        else if word ∉ ["".toList, "Runtime".toList, "ImportSource".toList, "Frag".toList] then
          readFrom fuel rest p
        else
          let rest := rest.dropWhile isGapBlank
          let value := rest.takeWhile fun c => !isGapBlank c && c != '\n' && c != '\r'
          let text := String.ofList value
          if value.isEmpty then p
          else readFrom fuel (rest.drop (value.length + 1)) <|
            match String.ofList word with
            | "" => { p with factory := some text }
            | "Frag" => { p with fragment := some text }
            | "ImportSource" => { p with source := some text }
            | _ =>
              if text == "automatic" then { p with isAutomatic := true }
              else if text == "classic" then { p with isAutomatic := false } else p

/-- What the comments of a script say, a later one over an earlier one. -/
def ofComments (cs : List Comment) : Pragmas :=
  cs.foldl (fun p c => readFrom (c.text.length + 1) c.content p) {}

end Pragmas

end AppMend.Script
