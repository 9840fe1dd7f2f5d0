import AppMend.Script.Literal

/-!
# The text of a script as it is printed

What is printed is added at the end of a text. Besides the text, an `Output` keeps how far the next line
is indented, where the part of an expression began that must not be mistaken for something else, and the
comments that have not been printed yet, each group with the place in the script that it leads to.
-/

namespace AppMend.Script

structure Output where
  text : String := ""
  /-- The last character of the text. -/
  last : Option Char := none
  indent : Nat := 0
  /-- Whether the next indentation is a blank, because something stands on the line already. -/
  spaceNext : Bool := false
  /-- The sign of a unary operator that was printed, with the size of the text then. -/
  signAt : Option (String × Nat) := none
  /-- The size of the text where a number ended to which a point would be joined. -/
  numberEnd : Option Nat := none
  /-- The size of the text where an expression began that is a statement. -/
  statementAt : Option Nat := none
  /-- The same for the body of an arrow function. -/
  arrowAt : Option Nat := none
  /-- The same for what is exported by default. -/
  standardAt : Option Nat := none
  comments : List (Nat × List Comment)

/-- What prints something. -/
abbrev Printing (α : Type) := StateM Output α

namespace Printing

/-! ## Text -/

/-- Adds a text. -/
def emit (s : String) : Printing Unit := modify fun o =>
  { o with text := o.text ++ s, last := if s.isEmpty then o.last else s.toList.getLast? }

/-- The size of the text so far. -/
def size : Printing Nat := return (← get).text.utf8ByteSize

def newline : Printing Unit := emit "\n"

/-- The indentation of a line, or a blank. -/
def indentation : Printing Unit := do
  let o ← get
  if o.spaceNext then
    emit " "
    modify fun o => { o with spaceNext := false }
  else emit (String.ofList (List.replicate o.indent '\t'))

/-- Prints with lines indented further. -/
def deeper (p : Printing Unit) : Printing Unit := do
  modify fun o => { o with indent := o.indent + 1 }
  p
  modify fun o => { o with indent := o.indent - 1 }

/-- Has the next indentation be a blank. -/
def onSameLine : Printing Unit := modify fun o => { o with spaceNext := true }

/-- Takes back that the next indentation is a blank. -/
def onOwnLine : Printing Unit := modify fun o => { o with spaceNext := false }

/-- Prints in parentheses, if need be. -/
def wrapped (need : Bool) (p : Printing Unit) : Printing Unit :=
  if need then do
    emit "("
    p
    emit ")"
  else p

/-- Prints between braces, on lines of its own unless there is nothing. -/
def braced (oneLine : Bool) (p : Printing Unit) : Printing Unit := do
  emit "\x7b"
  if oneLine then p
  else
    newline
    deeper p
    indentation
  emit "\x7d"

/-! ## Places that are told apart -/

def beginStatement : Printing Unit := do
  let n ← size
  modify fun o => { o with statementAt := some n }

def beginArrowBody : Printing Unit := do
  let n ← size
  modify fun o => { o with arrowAt := some n }

def beginStandard : Printing Unit := do
  let n ← size
  modify fun o => { o with standardAt := some n }

/-- Whether a statement begins here with an expression. -/
def atStatement : Printing Bool := do return (← get).statementAt == some (← size)

/-- Whether the body of an arrow function begins here with an expression. -/
def atArrowBody : Printing Bool := do return (← get).arrowAt == some (← size)

/-- Whether what is exported by default begins here with an expression. -/
def atStandard : Printing Bool := do return (← get).standardAt == some (← size)

/-! ## Signs and numbers -/

/-- Keeps a sign apart from a unary operator right before it that it would join. -/
def keepApart (sign : String) : Printing Unit := do
  let o ← get
  match o.signAt with
  | some (before, n) =>
    if n == o.text.utf8ByteSize && (before == "+" || before == "-") && before.isPrefixOf sign then
      emit " "
  | none => pure ()

/-- A sign that another must not join. -/
def emitSign (sign : String) : Printing Unit := do
  keepApart sign
  emit sign
  let n ← size
  modify fun o => { o with signAt := some (sign, n) }

/-- A number that is not negative. -/
def emitNumber (s : String) : Printing Unit := do
  emit s
  if isBareDigits s then
    let n ← size
    modify fun o => { o with numberEnd := some n }

/-- The point before the name of a member. -/
def point : Printing Unit := do
  let n ← size
  if (← get).numberEnd == some n then emit " "
  emit "."

/-! ## Comments -/

/-- The lines of a block comment. -/
private def blockLines (cur : List Char) : List Char → List (List Char)
  | [] => [cur.reverse]
  | '\r' :: '\n' :: s => cur.reverse :: blockLines [] s
  | c :: s => if isLineEnd c then cur.reverse :: blockLines [] s else blockLines (c :: cur) s

/-- The text of a comment. The lines of a block comment after the first are indented anew. -/
def comment (c : Comment) : Printing Unit := do
  if c.isLine || c.isOneLine then emit (String.ofList (escapeScriptTags c.text))
  else
    match blockLines [] c.text with
    | [] => pure ()
    | first :: more =>
      emit (String.ofList (escapeScriptTags first))
      for l in more do
        newline
        indentation
        emit (String.ofList (escapeScriptTags (l.dropWhile Text.isBlank)))

/-- The comments that lead to a place, which are to be printed no more. -/
def takeComments (pos : Nat) : Printing (List Comment) := do
  let o ← get
  match o.comments.lookup pos with
  | some cs =>
    set { o with comments := o.comments.filter fun (p, _) => p != pos }
    pure cs
  | none => pure []

/-- Whether comments lead to a place. -/
def hasComments (pos : Nat) : Printing Bool := return ((← get).comments.lookup pos).isSome

/-- The start of a line of its own for a comment. -/
private def freshLine : Printing Unit := do
  match (← get).last with
  | none | some '\t' => pure ()
  | some '\n' => indentation
  | some _ =>
    newline
    indentation

/-- Comments after another, and what follows the last one. -/
private def commentsAfter (before : Comment) : List Comment → Printing Unit
  | [] => if before.beforeNewline then newline else onSameLine
  | c :: cs => do
    if before.beforeNewline then
      newline
      indentation
    else if c.isLegal then newline
    else emit " "
    comment c
    commentsAfter c cs

/-- The comments before a statement or a member. -/
def leadingComments : List Comment → Printing Unit
  | [] => pure ()
  | c :: cs => do
    if c.afterNewline then freshLine else indentation
    comment c
    commentsAfter c cs

/-- The comments that lead to a statement or a member at a place. -/
def commentsAt (pos : Nat) : Printing Unit := do leadingComments (← takeComments pos)

/-- The comments before an argument, each on a line of its own; whether there are any. -/
def argumentComments (pos : Nat) : Printing Bool := do
  let cs ← takeComments pos
  for c in cs do
    newline
    indentation
    comment c
  if !cs.isEmpty then newline
  pure !cs.isEmpty

end Printing

end AppMend.Script
