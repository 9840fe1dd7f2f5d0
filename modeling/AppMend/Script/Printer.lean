import AppMend.Script.Grammar
import AppMend.Script.Operator
import AppMend.Script.Output

/-!
# Printing scripts

The text of a script in plain form: one statement a line, blocks indented by tabs, strings in double
quotation marks. Parentheses are written where the strength of an operator or the place of an expression
asks for them and nowhere else. A list of more than two items, or an object of more than one member,
takes a line for each. A comment stands where the statement, the member or the argument stands that it
led to.

An expression is printed for a level: what binds no stronger than the level stands in parentheses.
-/

namespace AppMend.Script

/-! ## Levels and places -/

/-- How strongly an expression binds. -/
abbrev Level := Nat

namespace Level

def lowest : Level := 0
def comma : Level := 1
def yield : Level := 3
def assign : Level := 4
def conditional : Level := 5
def power : Level := 17
def unary : Level := 18
def postfixed : Level := 19
def new : Level := 20
def call : Level := 21

/-- How strongly a binary operator binds. -/
def ofBinary (op : String) : Level := (binaryStrength? op).getD comma

end Level

/-- Where an expression is printed. -/
structure Place where
  /-- Whether an operator `in` would be taken for that of a loop. -/
  noIn : Bool := false
  /-- Whether a call would be taken for that of `new`. -/
  noCall : Bool := false

/-! ## What an expression is, besides parentheses around it -/

namespace Expr

def isLogical (e : Expr) : Bool :=
  match e.bare with
  | .binary op _ _ => op == "&&" || op == "||"
  | _ => false

def isUnary (e : Expr) : Bool :=
  match e.bare with
  | .unary .. | .await _ => true
  | _ => false

def isNamed (x : String) (e : Expr) : Bool :=
  match e.bare with
  | .name y => x == y
  | _ => false

/-- Whether a decorator may be an expression without parentheses around it. -/
def decorates : Expr → Bool
  | .name _ => true
  | .member e _ false => e.decorates
  | .call f _ false _ _ => f.decorates
  | _ => false

/-- Where an argument starts. -/
def start : Expr → Nat
  | .placed n _ => n
  | _ => 0

end Expr

/-- A number as a key. What would not be read as a number stands in brackets. -/
def keyText (x : Number.Binary) : String :=
  match x with
  | .finite true (m + 1) e => "[-" ++ magnitudeText (.finite true (m + 1) e) ++ "]"
  | .infinite negative => (if negative then "[-" else "[") ++ magnitudeText x ++ "]"
  | x => magnitudeText x

/-- The levels for the sides of a binary operator. -/
def binaryLevels (op : String) (l r : Expr) : Level × Level :=
  let own := Level.ofBinary op
  if op = "??" then
    (if l.isLogical then Level.unary else own - 1, if r.isLogical then Level.unary else own)
  else if op = "**" then (if l.isUnary then Level.call else own, own - 1)
  else (own - 1, own)

/-- Whether the name that a pattern binds is that of its key. -/
def Pattern.repeats (x : String) : Pattern → Bool
  | .name y | .withDefault (.name y) _ => x == y
  | _ => false

def Pattern.isObject : Pattern → Bool
  | .object .. => true
  | _ => false

def Function.traits : Function → FunctionTraits
  | .mk traits _ _ _ _ _ => traits

/-- Whether a comment says that calls of the function that a statement declares have no effects. -/
def Stmt.isEffectFree (s : Stmt) : Bool :=
  match s.bare with
  | .function f => f.traits.effectFree
  | _ => false

/-- The value of a string that is all of a statement. -/
def Stmt.soleString? (s : Stmt) : Option (List Nat) :=
  match s.bare with
  | .expr e =>
    match e.bare with
    | .string value => some value
    | _ => none
  | _ => none

def Stmt.isBlock (s : Stmt) : Bool :=
  match s.bare with
  | .block _ => true
  | _ => false

def Stmt.isIf (s : Stmt) : Bool :=
  match s.bare with
  | .if .. => true
  | _ => false

/-- Whether a loop assigns to a name that would be taken for a word before its `of`. -/
def Stmt.isAsyncTarget : Stmt → Bool
  | .forTarget (.name x) => x == "async"
  | .forTarget (.target e) => e.isNamed "async"
  | _ => false

/-- Whether an `else` after a statement would be taken for its own. -/
def Stmt.swallowsElse : Stmt → Bool
  | .if _ _ none => true
  | .if _ _ (some s) => s.swallowsElse
  | .for _ _ _ s | .forIn _ _ s | .forOf _ _ _ s | .while _ s | .with _ s | .labeled _ s => s.swallowsElse
  | .placed _ s => s.swallowsElse
  | _ => false

/-! ## Texts without parts -/

def tickMark : String := String.singleton (Char.ofNat 96)

/-- Whether a directive has a double quotation mark in it before any single one. -/
def hasDoubleFirst : List Char → Bool
  | '\\' :: _ :: s => hasDoubleFirst s
  | '"' :: _ => true
  | '\'' :: _ => false
  | _ :: s => hasDoubleFirst s
  | [] => false

namespace ModuleName

def code (n : ModuleName) : String := if n.isString then stringText n.value else textOf n.value

end ModuleName

/-- The text of items with commas between them. -/
def commaText (items : List String) : String := ", ".intercalate items

/-- Items in braces. -/
def bracedText (items : List String) : String :=
  if items.isEmpty then "\x7b\x7d" else "\x7b " ++ commaText items ++ " \x7d"

def Source.code (s : Source) : String :=
  stringText s.value ++ (match s.attributes with
    | none => ""
    | some a =>
      " " ++ a.word ++ " " ++ bracedText (a.pairs.map fun (k, v) => k.code ++ ": " ++ stringText v))

/-- What an import binds, besides the names in braces. -/
private def Specifier.plainCode? : Specifier → Option String
  | .standard x => some x
  | .whole x => some ("* as " ++ x)
  | .named .. => none

private def Specifier.namedCode? : Specifier → Option String
  | .named imported x _ =>
    some (if textOf imported.value == x then imported.code else imported.code ++ " as " ++ x)
  | _ => none

def Import.code (i : Import) : String :=
  let stage := (i.stage.map (· ++ " ")).getD ""
  let clause := match i.specifiers with
    | none => ""
    | some specifiers =>
      let plain := specifiers.filterMap Specifier.plainCode?
      let named := specifiers.filterMap Specifier.namedCode?
      let names := if named.isEmpty && !plain.isEmpty then [] else [bracedText named]
      commaText (plain ++ names) ++ " from "
  "import " ++ stage ++ clause ++ i.source.code

def ExportName.code (n : ExportName) : String :=
  if n.localName == n.exported then n.localName.code
  else n.localName.code ++ " as " ++ n.exported.code

/-- What stands before the parameters of a function. -/
def functionHead (traits : FunctionTraits) (x : Option String) : String :=
  (if traits.isAsync then "async function" else "function") ++
    (if traits.isGenerator then "* " else "") ++
    (match x with
      | some x => (if traits.isGenerator then "" else " ") ++ x
      | none => "")

/-- What stands before the key of a method. -/
def methodHead (kind : MethodKind) (traits : FunctionTraits) : String :=
  (match kind with
    | .plain => ""
    | .getter => "get "
    | .setter => "set ") ++ (if traits.isAsync then "async " else "") ++
    (if traits.isGenerator then "*" else "")

def effectFreeMark : String := "/* @__NO_SIDE_EFFECTS__ */"

/-- A jump to a label, or to where it leads without one. -/
def jumpText (word : String) : Option String → String
  | some x => word ++ " " ++ x ++ ";\n"
  | none => word ++ ";\n"

/-- Where a statement stands. -/
inductive Stand where
  /-- On a line of its own, after its comments. -/
  | line
  /-- After what holds it, on the same line unless comments lead to it. -/
  | held
  /-- After a part of its own line that has been printed. -/
  | begun
deriving DecidableEq

namespace Printing

/-- The comments that lead to a statement. -/
def comesTo (stand : Stand) (start : Nat) : Printing Unit :=
  match stand with
  | .line => commentsAt start
  | .held => do
    onSameLine
    commentsAt start
  | .begun => pure ()

/-- The indentation of a statement, or the blank in front of it. -/
def indents (stand : Stand) : Printing Unit :=
  if stand = .begun then pure () else indentation

/-- A directive. -/
def directive (d : Directive) : Printing Unit := do
  commentsAt d.start
  indentation
  let mark := if hasDoubleFirst d.text.toList then "'" else "\""
  emit (mark ++ d.text ++ mark ++ ";\n")

/-- The comments before a name in an export, and the name. -/
private def exportNames : Bool → List ExportName → Printing Unit
  | _, [] => pure ()
  | isFirst, n :: ns => do
    if !isFirst then emit ", "
    if ← hasComments n.start then
      commentsAt n.start
      emit " "
      onOwnLine
    emit n.code
    exportNames false ns

/-- Whether the braces of a body stand on one line. -/
private def bodyIsOneLine (isEmpty : Bool) (stop : Nat) : Printing Bool := do
  let cs := ((← get).comments.lookup (stop - 1)).getD []
  pure (isEmpty && cs.all fun c => !c.afterNewline && !c.beforeNewline && !c.isLine)

/-- Whether comments stand among arguments. -/
private def commentsAmong (args : List Expr) (stop : Nat) : Printing Bool := do
  let o ← get
  pure (!o.comments.isEmpty &&
    ((stop - 1) :: args.map Expr.start).any fun n => n != 0 && (o.comments.lookup n).isSome)

/-- Arguments in parentheses: each takes a line if comments stand among them. -/
private def arguments (args : List Expr) (stop : Nat) (lines sameLine : Printing Unit) :
    Printing Unit := do
  emit "("
  if ← commentsAmong args stop then
    deeper do
      lines
      let atEnd ← argumentComments (stop - 1)
      if !atEnd then newline
    indentation
  else sameLine
  emit ")"

/-- The body of a function: its directives, its statements and the comments at its end. -/
private def body (directives : List Directive) (ss : List Stmt) (stop : Nat) (inner : Printing Unit) :
    Printing Unit := do
  let isOneLine ← bodyIsOneLine (directives.isEmpty && ss.isEmpty) stop
  braced isOneLine do
    directives.forM directive
    inner
    if stop != 0 then
      commentsAt (stop - 1)
      onOwnLine

mutual

/-- The text of an expression for a level. -/
def expr (p : Place) (level : Level) : Expr → Printing Unit
  | .name x => emit x
  | .this => emit "this"
  | .super => emit "super"
  | .null => emit "null"
  | .bool b => emit (if b then "true" else "false")
  | .number x => emitNumber (magnitudeText x)
  | .bigint digits => emit (digits ++ "n")
  | .string value => emit (stringText value)
  | .regex text => do
    if (← get).last == some '/' then emit " "
    emit (rawText text)
  | .template parts es => do
    emit tickMark
    holes parts es
    emit tickMark
  | .tagged tag parts es => do
    expr p Level.postfixed tag
    emit tickMark
    holes parts es
    emit tickMark
  | .array es _ => do
    let isLong := 2 < es.length
    emit "["
    if isLong then
      deeper (items true true es)
      newline
      indentation
    else items false true es
    emit "]"
  | .hole => pure ()
  | .spread e => do
    emit "..."
    expr {} Level.comma e
  | .object ms _ => do
    wrapped ((← atStatement) || (← atArrowBody)) do
      emit "\x7b"
      match ms with
      | [] => pure ()
      | [m] =>
        emit " "
        member m
        emit " "
      | ms =>
        deeper (members true ms)
        newline
        indentation
      emit "\x7d"
  | .function f => do
    wrapped ((← atStatement) || (← atStandard) || f.traits.isolated) do
      if f.traits.effectFree then emit (effectFreeMark ++ " ")
      function f
  | .arrow (.mk traits _ ps directives ss stop) =>
    wrapped (Level.assign ≤ level || traits.isolated) do
      if traits.effectFree then emit (effectFreeMark ++ " ")
      emit (if traits.isAsync then "async (" else "(")
      patterns true ps
      emit ") => "
      body directives ss stop (bodyStatements directives ss)
  | .arrowTo traits ps e =>
    wrapped (Level.assign ≤ level || traits.isolated) do
      if traits.effectFree then emit (effectFreeMark ++ " ")
      emit (if traits.isAsync then "async (" else "(")
      patterns true ps
      emit ") => "
      beginArrowBody
      expr { p with noCall := false } Level.comma e
  | .class c => do wrapped ((← atStatement) || (← atStandard)) («class» c)
  | .unary op e =>
    wrapped (Level.unary ≤ level) do
      if op = "typeof" ∨ op = "void" ∨ op = "delete" then emit (op ++ " ") else emitSign op
      expr p Level.power e
  | .update op before e =>
    wrapped ((if before then Level.unary else Level.postfixed) ≤ level) do
      if before then
        emitSign op
        expr p Level.unary e
      else
        keepApart op
        expr p Level.postfixed e
        emit op
  | .binary op l r => do
    let w := Level.ofBinary op ≤ level || (op = "in" && p.noIn)
    let q := if w then { p with noIn := false } else p
    let (left, right) := binaryLevels op l r
    wrapped w do
      expr q left l
      emit (" " ++ op ++ " ")
      expr q right r
  | .privateName x => emit ("#" ++ x)
  | .assign op target e => do
    wrapped (Level.assign ≤ level || (target.isObject && ((← atStatement) || (← atArrowBody)))) do
      pattern target
      emit (" " ++ op ++ " ")
      expr p Level.comma e
  | .conditional test yes no =>
    let w := Level.conditional ≤ level
    let q : Place := { noIn := p.noIn && !w }
    wrapped w do
      expr q Level.conditional test
      emit " ? "
      expr {} Level.yield yes
      emit " : "
      expr q Level.yield no
  | .call f args maybe isPure stop => do
    let isStatement ← atStatement
    let isStandard ← atStandard
    wrapped (Level.new ≤ level || p.noCall || (isPure && Level.postfixed ≤ level)) do
      if isPure then emit "/* @__PURE__ */ "
      if isStandard then beginStandard else if isStatement then beginStatement
      expr {} Level.postfixed f
      if maybe then emit "?."
      arguments args stop (argumentLines true args) (items false true args)
  | .new f args isPure stop =>
    wrapped (Level.call ≤ level || (isPure && Level.postfixed ≤ level)) do
      if isPure then emit "/* @__PURE__ */ "
      emit "new "
      expr { noCall := true } Level.new f
      arguments args stop (argumentLines true args) (items false true args)
  | .member e x maybe => do
    expr p Level.postfixed e
    if maybe then emit "?." else point
    emit x
  | .index e i maybe => do
    let isLet := e.isNamed "let" && (← atStatement)
    wrapped isLet (expr { noCall := p.noCall } Level.postfixed e)
    emit (if maybe then "?.[" else "[")
    expr {} Level.lowest i
    emit "]"
  | .chain e => wrapped (Level.postfixed ≤ level) (expr p Level.lowest e)
  | .sequence es =>
    wrapped (Level.comma ≤ level) (sequence { p with noCall := false } true es)
  | .yield delegate e =>
    wrapped (Level.assign ≤ level) do
      emit (if delegate then "yield*" else "yield")
      after " " {} Level.yield e
  | .await e =>
    wrapped (Level.unary ≤ level) do
      emit "await "
      expr p Level.power e
  | .importCall stage args stop =>
    wrapped (Level.new ≤ level || p.noCall) do
      emit ("import" ++ (match stage with
        | some word => "." ++ word
        | none => ""))
      arguments args stop (argumentLines true args) (items false true args)
  | .metaProperty text => emit text
  | .parens _ e | .typed e | .asserted _ e | .instantiated e => expr p level e
  | .computed e => do
    emit "["
    expr {} Level.comma e
    emit "]"
  | .placed _ e => expr p level e
  | .element .. | .fragment .. => pure ()

/-- An expression after a text, if there is one. -/
def after (before : String) (p : Place) (level : Level) : Option Expr → Printing Unit
  | none => pure ()
  | some e => do
    emit before
    expr p level e

/-- The items of an array, each on a line of its own if there are many. -/
def items (isLong isFirst : Bool) : List Expr → Printing Unit
  | [] => pure ()
  | e :: es => do
    if !isFirst then emit (if isLong then "," else ", ")
    if isLong then
      newline
      indentation
    expr {} Level.comma e
    match e, es with
    | .hole, [] => emit ","
    | _, _ => items isLong false es

/-- The expressions of a sequence. -/
def sequence (p : Place) (isFirst : Bool) : List Expr → Printing Unit
  | [] => pure ()
  | e :: es => do
    if !isFirst then emit ", "
    expr p Level.lowest e
    sequence p false es

/-- The parts of a template with its holes between them. -/
def holes : List String → List Expr → Printing Unit
  | [], _ => pure ()
  | part :: _, [] => emit (rawText part)
  | part :: parts, e :: es => do
    emit (rawText part ++ "$\x7b")
    expr {} Level.lowest e
    emit "\x7d"
    holes parts es

/-- Arguments with their comments, each on a line of its own. -/
def argumentLines (isFirst : Bool) : List Expr → Printing Unit
  | [] => pure ()
  | e :: es => do
    if !isFirst then emit ","
    if !(← argumentComments e.start) then newline
    indentation
    expr {} Level.comma e
    argumentLines false es

/-- The members of an object, each on a line of its own. -/
def members (isFirst : Bool) : List Member → Printing Unit
  | [] => pure ()
  | m :: ms => do
    if !isFirst then emit ","
    newline
    indentation
    member m
    members false ms

/-- A key. What would not be read as a number stands in brackets. -/
def key : Expr → Printing Unit
  | .name x => emit x
  | .privateName x => emit ("#" ++ x)
  | .string value => emit (stringText value)
  | .bigint digits => emit (digits ++ "n")
  | .number x => emitNumber (keyText x)
  | .computed e => do
    emit "["
    expr {} Level.comma e
    emit "]"
  | _ => pure ()

/-- A member of an object or a class. -/
def member : Member → Printing Unit
  | .field k e short => do
    let isShort : Bool := match k with
      | .name x => if x == "__proto__" then short else e.isNamed x
      | _ => false
    if !isShort then
      key k
      emit ": "
    expr {} Level.comma e
  | .withDefault _ x e => do
    emit (x ++ " = ")
    expr {} Level.comma e
  | .method kind k (.mk traits _ ps directives ss stop) => do
    emit (methodHead kind traits)
    key k
    emit "("
    patterns true ps
    emit ") "
    body directives ss stop (bodyStatements directives ss)
  | .spread e => do
    emit "..."
    expr {} Level.comma e
  | .slot isAccessor k e => do
    if isAccessor then emit "accessor "
    key k
    after " = " {} Level.comma e
    emit ";"
  | .staticBlock ss => do
    emit "static "
    braced ss.isEmpty (statements ss)
  | .placed start ds isStatic m => do
    commentsAt start
    indentation
    decorators ds
    match isStatic with
    | true => emit "static "
    | false => pure ()
    member m
    newline

def classMembers : List Member → Printing Unit
  | [] => pure ()
  | m :: ms => do
    member m
    classMembers ms

def decorators : List Expr → Printing Unit
  | [] => pure ()
  | e :: es => do
    emit "@"
    wrapped (!e.decorates) (expr {} Level.lowest e)
    emit " "
    decorators es

def pattern : Pattern → Printing Unit
  | .name x => emit x
  | .target e => expr {} Level.comma e
  | .hole => pure ()
  | .rest q => do
    emit "..."
    pattern q
  | .withDefault q e => do
    pattern q
    emit " = "
    expr {} Level.comma e
  | .array qs => do
    emit "["
    patterns true qs
    match qs.getLast? with
    | some .hole => emit ","
    | _ => pure ()
    emit "]"
  | .object binds qs =>
    if qs.isEmpty then emit "\x7b\x7d"
    else do
      emit (if binds then "\x7b " else "\x7b")
      properties binds true qs
      emit (if binds then " \x7d" else "\x7d")
  | .field k q _ => do
    key k
    emit ": "
    pattern q
  | .decorated ds q => do
    decorators ds
    pattern q
  | .property q => pattern q

/-- Patterns with commas between them. -/
def patterns (isFirst : Bool) : List Pattern → Printing Unit
  | [] => pure ()
  | q :: qs => do
    if !isFirst then emit ", "
    pattern q
    patterns false qs

/-- The fields of a pattern. The name of a key stands for the name that is bound, if it is the same. -/
def properties (binds isFirst : Bool) : List Pattern → Printing Unit
  | [] => pure ()
  | .field k q short :: qs => do
    if !isFirst then emit ", "
    let isShort : Bool := match k with
      | .name x => if binds && x != "__proto__" then q.repeats x else short
      | _ => false
    if !isShort then
      key k
      emit ": "
    pattern q
    properties binds false qs
  | q :: qs => do
    if !isFirst then emit ", "
    pattern q
    properties binds false qs

/-- Variables with their first values. -/
def bindings (noIn isFirst : Bool) : List Pattern → Printing Unit
  | [] => pure ()
  | .withDefault q e :: qs => do
    if !isFirst then emit ", "
    pattern q
    emit " = "
    expr { noIn } Level.comma e
    bindings noIn false qs
  | q :: qs => do
    if !isFirst then emit ", "
    pattern q
    bindings noIn false qs

def function : Function → Printing Unit
  | .mk traits x ps directives ss stop => do
    emit (functionHead traits x ++ "(")
    patterns true ps
    emit ") "
    body directives ss stop (bodyStatements directives ss)

def «class» : Class → Printing Unit
  | .mk ds x base ms => do
    decorators ds
    emit "class"
    match x with
    | some x => emit (" " ++ x)
    | none => pure ()
    after " extends " {} Level.postfixed base
    emit " "
    braced ms.isEmpty (classMembers ms)

/-- The statements of a body. Without directives before it, a string at their head is not to become
one. -/
def bodyStatements (directives : List Directive) : List Stmt → Printing Unit
  | [] => pure ()
  | s :: ss => do
    match (if directives.isEmpty then s.soleString? else none) with
    | some value => emit ("(" ++ stringText value ++ ");\n")
    | none => statement .line 0 s
    statements ss

/-- Statements, each on lines of its own. -/
def statements : List Stmt → Printing Unit
  | [] => pure ()
  | s :: ss => do
    statement .line 0 s
    statements ss

/-- A statement in braces whatever it is, without a line end. -/
def block : Stmt → Printing Unit
  | .block ss => braced ss.isEmpty (statements ss)
  | .placed _ s => block s
  | _ => braced true (pure ())

/-- A statement that starts at a place, up to its line end. -/
def statement (stand : Stand) (start : Nat) : Stmt → Printing Unit
  | .placed start s => statement stand start s
  | .expr e => do
    comesTo stand start
    indents stand
    beginStatement
    wrapped (e.isNamed "let") (expr {} Level.lowest e)
    emit ";\n"
  | .vars kind ps => do
    comesTo stand start
    indents stand
    emit (kind.name ++ " ")
    bindings false true ps
    emit ";\n"
  | .function f => do
    comesTo stand start
    if f.traits.effectFree && stand != .begun then
      indents stand
      emit (effectFreeMark ++ "\n")
    indents stand
    function f
    newline
  | .class c => do
    comesTo stand start
    indents stand
    «class» c
    newline
  | .return e => do
    comesTo stand start
    indents stand
    emit "return"
    after " " {} Level.lowest e
    emit ";\n"
  | .if test yes no => do
    comesTo stand start
    indents stand
    emit "if ("
    expr {} Level.lowest test
    emit ")"
    if yes.isBlock then
      emit " "
      block yes
      if no.isSome then emit " " else newline
    else if yes.swallowsElse then
      emit " "
      braced false (statement .line 0 yes)
      if no.isSome then emit " " else newline
    else
      statement .held 0 yes
      if no.isSome then indentation
    otherwise no
  | .block ss => do
    if stand = .held then emit " "
    else
      comesTo stand start
      indents stand
    braced ss.isEmpty (statements ss)
    newline
  | .for init test update s => do
    comesTo stand start
    indents stand
    emit "for ("
    optLoopHead init
    emit ";"
    after " " {} Level.lowest test
    emit ";"
    after " " {} Level.lowest update
    emit ")"
    statement .held 0 s
  | .forIn left right s => do
    comesTo stand start
    indents stand
    emit "for ("
    loopHead left
    emit " in "
    expr {} Level.lowest right
    emit ")"
    statement .held 0 s
  | .forOf isAwait left right s => do
    comesTo stand start
    indents stand
    emit (if isAwait then "for await (" else "for (")
    wrapped left.isAsyncTarget (loopHead left)
    emit " of "
    expr {} Level.comma right
    emit ")"
    statement .held 0 s
  | .forTarget q => pattern q
  | .while test s => do
    comesTo stand start
    indents stand
    emit "while ("
    expr {} Level.lowest test
    emit ")"
    statement .held 0 s
  | .doWhile s test => do
    comesTo stand start
    indents stand
    emit "do"
    if s.isBlock then
      emit " "
      block s
      emit " "
    else
      newline
      deeper (statement .line 0 s)
      indentation
    emit "while ("
    expr {} Level.lowest test
    emit ");\n"
  | .with subject s => do
    comesTo stand start
    indents stand
    emit "with("
    expr {} Level.lowest subject
    emit ")"
    statement .held 0 s
  | .try ss handler finalizer => do
    comesTo stand start
    indents stand
    emit "try "
    braced ss.isEmpty (statements ss)
    optHandles handler
    finishes finalizer
    newline
  | .handler .. => pure ()
  | .throw e => do
    comesTo stand start
    indents stand
    emit "throw "
    expr {} Level.lowest e
    emit ";\n"
  | .switch subject cases => do
    comesTo stand start
    indents stand
    emit "switch ("
    expr {} Level.lowest subject
    emit ") "
    braced cases.isEmpty (statements cases)
    newline
  | .case test ss => do
    comesTo stand start
    indents stand
    emit (if test.isSome then "case" else "default")
    after " " {} Level.lowest test
    emit ":"
    match ss with
    | [s] => statement .held 0 s
    | ss =>
      newline
      deeper (statements ss)
  | .labeled label s => do
    comesTo stand start
    indents stand
    emit (label ++ ":")
    statement .held 0 s
  | .break label => do
    comesTo stand start
    indents stand
    emit (jumpText "break" label)
  | .continue label => do
    comesTo stand start
    indents stand
    emit (jumpText "continue" label)
  | .debugger => do
    comesTo stand start
    indents stand
    emit "debugger;\n"
  | .empty =>
    if stand = .held then emit ";\n"
    else do
      comesTo stand start
      indents stand
      emit ";\n"
  | .imports i => do
    comesTo stand start
    indents stand
    emit (i.code ++ ";\n")
  | .exportDeclaration d => do
    comesTo stand start
    if d.isEffectFree then emit (effectFreeMark ++ "\n")
    indents stand
    emit "export "
    statement .begun 0 d
  | .exportList names source => do
    comesTo stand start
    indents stand
    emit "export "
    if names.isEmpty then emit "\x7b\x7d"
    else
      emit "\x7b "
      exportNames true names
      emit " \x7d"
    match source with
    | some s => emit (" from " ++ s.code)
    | none => pure ()
    emit ";\n"
  | .exportAll x source => do
    comesTo stand start
    indents stand
    emit ("export *" ++ (match x with
      | some x => " as " ++ x.code
      | none => "") ++ " from " ++ source.code ++ ";\n")
  | .exportDefault e => do
    comesTo stand start
    indents stand
    emit "export default "
    beginStandard
    expr {} Level.comma e
    emit ";\n"
  | .exportDefaultFunction f => do
    comesTo stand start
    if f.traits.effectFree then emit (effectFreeMark ++ "\n")
    indents stand
    emit "export default "
    function f
    newline
  | .exportDefaultClass c => do
    comesTo stand start
    indents stand
    emit "export default "
    «class» c
    newline
  | .enumeration .. | .space .. | .importAlias .. | .importRequest .. | .exportValue _ | .types _
  | .ambient _ | .typeExport _ | .unwritable .. => pure ()

/-- What is done when a test fails. -/
def otherwise : Option Stmt → Printing Unit
  | none => pure ()
  | some s => do
    emit "else"
    if s.isIf then
      emit " "
      statement .begun 0 s
    else statement .held 0 s

/-- What stands first in the head of a loop. -/
def loopHead : Stmt → Printing Unit
  | .vars kind ps => do
    emit (kind.name ++ " ")
    bindings true true ps
  | .forTarget q => pattern q
  | .expr e => expr { noIn := true } Level.lowest e
  | _ => pure ()

def optLoopHead : Option Stmt → Printing Unit
  | none => pure ()
  | some s => loopHead s

/-- What handles a thing that was thrown. -/
def handles : Stmt → Printing Unit
  | .placed _ s => handles s
  | .handler ps s => do
    emit " catch "
    if !ps.isEmpty then
      emit "("
      patterns true ps
      emit ") "
    block s
  | _ => pure ()

def optHandles : Option Stmt → Printing Unit
  | none => pure ()
  | some s => handles s

/-- What is done in any case in the end. -/
def finishes : Option Stmt → Printing Unit
  | none => pure ()
  | some s => do
    emit " finally "
    block s

end

end Printing

/-! ## Scripts -/

/-- Comments by the places they lead to. A mark is printed where what it marks is. -/
private def commentsByPlace : List (Nat × Comment) → List (Nat × List Comment)
  | [] => []
  | (pos, c) :: cs =>
    let more := commentsByPlace cs
    if !c.leads || c.marksPure || c.marksEffectFree then more
    else
      match more with
      | (next, ds) :: rest => if next = pos then (pos, c :: ds) :: rest else (pos, [c]) :: more
      | [] => [(pos, [c])]

/-- The text of a script in plain form, of which only the statements may have changed since it was
read. -/
def printScript (script : Script) (body : List Stmt) : String :=
  let print : Printing Unit := do
    if !script.runner.isEmpty then Printing.emit (script.runner ++ "\n")
    script.directives.forM Printing.directive
    Printing.bodyStatements script.directives body
    Printing.commentsAt script.stop
  (print.run { comments := commentsByPlace script.comments }).2.text

end AppMend.Script
