import AppMend.Script.Syntax

/-!
# Names that are bound

Which names a pattern or a declaration binds, and which names a block or a function has of its own: what
is declared with `var` anywhere in a function belongs to the whole of it, anything else to its block.
-/

namespace AppMend.Script

namespace Pattern

mutual

/-- The names that a pattern binds, in the order they are written. -/
def names : Pattern → List String
  | .name x => [x]
  | .rest p | .withDefault p _ | .field _ p _ | .decorated _ p | .property p => p.names
  | .array items => namesOf items
  | .object _ fields => namesOf fields
  | .target _ | .hole => []

def namesOf : List Pattern → List String
  | [] => []
  | p :: ps => p.names ++ namesOf ps

end

/-- Whether a pattern takes a value apart. -/
def isComposite : Pattern → Bool
  | .array _ | .object .. => true
  | _ => false

/-- The names of parameters that are also fields. -/
def propertyNames (ps : List Pattern) : List String := ps.flatMap go
where
  go : Pattern → List String
    | .property p => p.names
    | .decorated _ p => go p
    | _ => []

end Pattern

namespace Stmt

/-- The names that a declaration declares. -/
def declaredNames : Stmt → List String
  | .vars _ ps => Pattern.namesOf ps
  | .function f => f.name?.toList
  | .class c => c.name?.toList
  | .placed _ s => s.declaredNames
  | _ => []

/-- The names of values that a statement declares in its block, besides those of `var`. -/
def lexicalNames : Stmt → List String
  | .vars kind ps => if kind.isLexical then Pattern.namesOf ps else []
  | .function f => f.name?.toList
  | .class c => c.name?.toList
  | .enumeration x _ _ | .space x _ _ | .importAlias x _ | .importRequest x _ => [x]
  | .placed _ s | .exportDeclaration s => s.lexicalNames
  | _ => []

mutual

/-- The names that `var` declares in a statement and in the statements it holds. -/
def varNames : Stmt → List String
  | .placed _ s | .labeled _ s | .handler _ s | .exportDeclaration s => s.varNames
  | .vars kind ps => if kind.isLexical then [] else Pattern.namesOf ps
  | .if _ yes no => yes.varNames ++ varNamesOpt no
  | .block body | .case _ body => varNamesOf body
  | .for init _ _ body => varNamesOpt init ++ body.varNames
  | .forIn left _ body | .forOf _ left _ body => left.varNames ++ body.varNames
  | .while _ body | .doWhile body _ | .with _ body => body.varNames
  | .try body h last => varNamesOf body ++ varNamesOpt h ++ varNamesOpt last
  | .switch _ cases => varNamesOf cases
  | _ => []

def varNamesOf : List Stmt → List String
  | [] => []
  | s :: ss => s.varNames ++ varNamesOf ss

def varNamesOpt : Option Stmt → List String
  | none => []
  | some s => s.varNames

end

/-- The names that belong to a block. -/
def blockNames (body : List Stmt) : List String := body.flatMap lexicalNames

/-- The names that belong to the body of a function. -/
def bodyNames (body : List Stmt) : List String := varNamesOf body ++ blockNames body

end Stmt

end AppMend.Script
