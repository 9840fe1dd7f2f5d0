import AppMend.Number.Binary
import AppMend.Script.Comment

/-!
# The syntax of scripts

What a reader makes of a script. Besides what a plain script may hold, there are enumerations,
namespaces, elements and what only concerns types; bringing a script to plain form takes them away.

A statement, an argument and a member know where they start, and what ends with a closing sign knows
where that is: the comments of a script are kept by these places. What was not in the text starts and
stops at zero.
-/

namespace AppMend.Script

/-- How a variable is declared. -/
inductive VarKind where
  | var
  | let
  | const
  | using
  | awaitUsing
deriving DecidableEq, Inhabited

namespace VarKind

def name : VarKind → String
  | var => "var"
  | .let => "let"
  | const => "const"
  | .using => "using"
  | awaitUsing => "await using"

/-- Whether a variable of the kind lives in its block alone. -/
def isLexical : VarKind → Bool
  | var => false
  | _ => true

end VarKind

/-- What a method of a class or an object is. -/
inductive MethodKind where
  | plain
  | getter
  | setter
deriving DecidableEq, Inhabited

/-- How a function is marked. -/
structure FunctionTraits where
  isAsync : Bool := false
  isGenerator : Bool := false
  /-- Whether it stands in parentheses of its own; these are kept, since they hint at a call. -/
  isolated : Bool := false
  /-- Whether a comment says that calls have no effects. -/
  effectFree : Bool := false
deriving DecidableEq, Inhabited

/-- A string that stands as a statement at the head of a body, as it is written between its marks. -/
structure Directive where
  start : Nat
  text : String
deriving DecidableEq, Inhabited

/-! ## Imports and exports -/

/-- A name in an import or an export, which may be written as a string. -/
structure ModuleName where
  value : List Nat
  isString : Bool
deriving DecidableEq, Inhabited

/-- What an import says of its source besides its name, after a word. -/
structure SourceAttributes where
  word : String
  pairs : List (ModuleName × List Nat)
deriving DecidableEq, Inhabited

structure Source where
  value : List Nat
  attributes : Option SourceAttributes
deriving DecidableEq, Inhabited

/-- What an import binds. -/
inductive Specifier where
  | standard (localName : String)
  | whole (localName : String)
  | named (imported : ModuleName) (localName : String) (isType : Bool)
deriving DecidableEq, Inhabited

structure Import where
  /-- The word for the stage at which the source is evaluated. -/
  stage : Option String
  specifiers : Option (List Specifier)
  source : Source
  isType : Bool
deriving DecidableEq, Inhabited

structure ExportName where
  start : Nat
  localName : ModuleName
  exported : ModuleName
  isType : Bool
deriving DecidableEq, Inhabited

/-! ## Expressions and statements -/

mutual

inductive Expr where
  | name (x : String)
  | this
  | super
  | null
  | bool (b : Bool)
  | number (x : Number.Binary)
  | bigint (digits : String)
  | string (value : List Nat)
  | regex (text : String)
  /-- The raw parts of a template, one more than it has holes. -/
  | template (parts : List String) (holes : List Expr)
  | tagged (tag : Expr) (parts : List String) (holes : List Expr)
  /-- `comma` tells whether a comma follows the last item. -/
  | array (items : List Expr) (comma : Bool)
  /-- A place of an array that holds nothing. -/
  | hole
  | spread (e : Expr)
  | object (members : List Member) (comma : Bool)
  | function (f : Function)
  | arrow (f : Function)
  /-- An arrow function whose body is an expression. -/
  | arrowTo (traits : FunctionTraits) (params : List Pattern) (body : Expr)
  | class (c : Class)
  | unary (op : String) (e : Expr)
  /-- An increment or decrement, before or after its operand. -/
  | update (op : String) (before : Bool) (e : Expr)
  | binary (op : String) (l r : Expr)
  /-- A private name: of a member, or before an operator that asks whether an object has it. -/
  | privateName (x : String)
  | assign (op : String) (target : Pattern) (e : Expr)
  | conditional (test yes no : Expr)
  | call (f : Expr) (args : List Expr) (maybe pure : Bool) (stop : Nat)
  | new (f : Expr) (args : List Expr) (pure : Bool) (stop : Nat)
  | member (e : Expr) (name : String) (maybe : Bool)
  | index (e i : Expr) (maybe : Bool)
  /-- The whole of a chain that has a link which may be missing. -/
  | chain (e : Expr)
  | sequence (es : List Expr)
  | yield (delegate : Bool) (e : Option Expr)
  | await (e : Expr)
  /-- An import on request, with the word for its stage. -/
  | importCall (stage : Option String) (args : List Expr) (stop : Nat)
  /-- `import.meta` or `new.target`. -/
  | metaProperty (text : String)
  /-- What stands in parentheses, with the place where it starts. -/
  | parens (inner : Nat) (e : Expr)
  /-- An expression with a type after it. -/
  | typed (e : Expr)
  /-- An expression with a type before it, and the place where it starts itself. -/
  | asserted (inner : Nat) (e : Expr)
  /-- An expression with type arguments that no call follows. -/
  | instantiated (e : Expr)
  /-- A key in brackets. -/
  | computed (e : Expr)
  /-- An argument, or what is within an element, with the place where it starts. -/
  | placed (start : Nat) (e : Expr)
  /-- An element of markup: its tag, attributes and contents. The tag of an element of the page is a
  string. -/
  | element (start stop : Nat) (tag : Expr) (attributes : List Member) (children : List Expr)
  /-- Elements of markup side by side. -/
  | fragment (start stop : Nat) (children : List Expr)

/-- What an object, a class, an enumeration or the tag of an element is made of. A key is a name, a
string or a number, a private name, or any expression in brackets. -/
inductive Member where
  /-- `short` tells that one name stands for the key and the value. -/
  | field (key value : Expr) (short : Bool)
  /-- A name with a default, as only a target of an assignment may have it, and its place. -/
  | withDefault (pos : Nat) (name : String) (value : Expr)
  | method (kind : MethodKind) (key : Expr) (f : Function)
  | spread (e : Expr)
  /-- What may be given a value: a field of a class, a member of an enumeration, an attribute. -/
  | slot (isAccessor : Bool) (key : Expr) (value : Option Expr)
  | staticBlock (body : List Stmt)
  /-- A member with the place where it starts. -/
  | placed (start : Nat) (decorators : List Expr) (isStatic : Bool) (m : Member)

/-- What is bound or assigned. -/
inductive Pattern where
  | name (x : String)
  /-- A member that is assigned. -/
  | target (e : Expr)
  | hole
  | rest (p : Pattern)
  /-- A pattern with a default, or a variable with its first value. -/
  | withDefault (p : Pattern) (e : Expr)
  | array (items : List Pattern)
  /-- The fields, and at most one rest, of an object; `binds` tells a declaration from an assignment. -/
  | object (binds : Bool) (fields : List Pattern)
  | field (key : Expr) (p : Pattern) (short : Bool)
  /-- A parameter with decorators. -/
  | decorated (decorators : List Expr) (p : Pattern)
  /-- A parameter of a constructor that is also a field of its object. -/
  | property (p : Pattern)

/-- A function, and where its body stops. -/
inductive Function where
  | mk (traits : FunctionTraits) (name : Option String) (params : List Pattern)
      (directives : List Directive) (body : List Stmt) (stop : Nat)

inductive Class where
  | mk (decorators : List Expr) (name : Option String) (base : Option Expr) (members : List Member)

inductive Stmt where
  /-- A statement with the place where it starts. -/
  | placed (start : Nat) (s : Stmt)
  | expr (e : Expr)
  | vars (kind : VarKind) (ps : List Pattern)
  | function (f : Function)
  | class (c : Class)
  | return (e : Option Expr)
  | if (test : Expr) (yes : Stmt) (no : Option Stmt)
  | block (body : List Stmt)
  | for (init : Option Stmt) (test update : Option Expr) (body : Stmt)
  | forIn (left : Stmt) (right : Expr) (body : Stmt)
  | forOf (isAwait : Bool) (left : Stmt) (right : Expr) (body : Stmt)
  /-- What a loop assigns on each round, when it is not declared there. -/
  | forTarget (p : Pattern)
  | while (test : Expr) (body : Stmt)
  | doWhile (body : Stmt) (test : Expr)
  | with (subject : Expr) (body : Stmt)
  | try (body : List Stmt) (handler finalizer : Option Stmt)
  /-- What handles a thing that was thrown, with at most one parameter. -/
  | handler (params : List Pattern) (body : Stmt)
  | throw (e : Expr)
  | switch (subject : Expr) (cases : List Stmt)
  | case (test : Option Expr) (body : List Stmt)
  | labeled (label : String) (body : Stmt)
  | break (label : Option String)
  | continue (label : Option String)
  | debugger
  | empty
  | imports (clause : Import)
  | exportDeclaration (d : Stmt)
  | exportList (names : List ExportName) (source : Option Source)
  | exportAll (name : Option ModuleName) (source : Source)
  | exportDefault (e : Expr)
  | exportDefaultFunction (f : Function)
  | exportDefaultClass (c : Class)
  /-- An enumeration, and where it stops. -/
  | enumeration (name : String) (members : List Member) (stop : Nat)
  | space (name : String) (directives : List Directive) (body : List Stmt)
  /-- A name for something else, by the names that lead to it. -/
  | importAlias (name : String) (path : List String)
  /-- A name for a module that is asked for by its name. -/
  | importRequest (name : String) (source : List Nat)
  /-- The one value that a module is. -/
  | exportValue (e : Expr)
  /-- A declaration of types, with the names it declares. -/
  | types (names : List String)
  /-- A declaration of what exists elsewhere, with its names. -/
  | ambient (names : List String)
  /-- An export by which only types are exported, from another module if there is a source. -/
  | typeExport (source : Option Source)
  /-- A declaration that nothing can stand for, with the reason. -/
  | unwritable (pos : Nat) (reason : String)

end

instance : Inhabited Expr := ⟨.null⟩
instance : Inhabited Member := ⟨.spread .null⟩
instance : Inhabited Pattern := ⟨.hole⟩
instance : Inhabited Stmt := ⟨.empty⟩
instance : Inhabited Function := ⟨.mk {} none [] [] [] 0⟩
instance : Inhabited Class := ⟨.mk [] none none []⟩

/-- The text of code points; half of a surrogate pair is shown as a replacement character. -/
def textOf (value : List Nat) : String :=
  String.ofList (value.map fun n => if 0xD800 ≤ n ∧ n ≤ 0xDFFF then '\ufffd' else Char.ofNat n)

/-- The code points of a text. -/
def pointsOf (s : String) : List Nat := s.toList.map (·.toNat)

namespace Expr

/-- An expression without the parentheses around it. -/
def bare : Expr → Expr
  | .parens _ e => e.bare
  | e => e

/-- An expression without parentheses and types around it. -/
def untyped : Expr → Expr
  | .parens _ e | .typed e | .asserted _ e | .instantiated e => e.untyped
  | e => e

/-- Where an expression that starts at a place starts without parentheses and types around it. -/
def untypedStart (start : Nat) : Expr → Nat
  | .parens inner e | .asserted inner e => e.untypedStart inner
  | .typed e | .instantiated e => e.untypedStart start
  | _ => start

/-- Whether an expression is one with a type at it. -/
def isTyped : Expr → Bool
  | .typed _ | .asserted .. | .instantiated _ => true
  | _ => false

end Expr

/-- A statement without its place. -/
def Stmt.bare : Stmt → Stmt
  | .placed _ s => s.bare
  | s => s

def Function.name? : Function → Option String
  | .mk _ x _ _ _ _ => x

def Class.name? : Class → Option String
  | .mk _ x _ _ => x

end AppMend.Script
