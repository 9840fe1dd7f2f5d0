import AppMend.Script.Plain.Basic

/-!
# Namespaces as objects

A namespace is an object that a function fills. What the namespace exports is a member of the object
besides being a declaration in the function.
-/

namespace AppMend.Script.Plain

/-- How a declaration is passed on. -/
inductive Role where
  /-- It stays where it is. -/
  | own
  /-- The module exports it, by a statement at a place. -/
  | exported (start : Nat)
  /-- It is a member of the object of a namespace. -/
  | member (space : String)

/-- What a namespace of a name is exported as. -/
private def spaceMember (space x : String) : Expr := .member (.name space) x false

private def setMember (space x : String) (e : Expr) : Expr := .assign "=" (.target (spaceMember space x)) e

/-- A declaration at a place, passed on with the names it declares. -/
def deliver (role : Role) (start : Nat) (names : List String) (d : Stmt) : List Stmt :=
  match role with
  | .own => [placed start d]
  | .exported at_ => [placed at_ (.exportDeclaration (placed start d))]
  | .member space =>
    placed start d :: names.map fun x => .expr (setMember space x (.name x))

/-- Variables that a namespace exports: they have to be constant. A name is set along with its member;
where values are taken apart, the members are set afterwards. -/
private def memberVariables (space : String) (start : Nat) (kind : VarKind) (ps : List Pattern) :
    Plain (List Stmt) := do
  if kind != .const then throw ⟨"A namespace only exports constants", start⟩
  let isSimple : Pattern → Bool
    | .withDefault (.name _) _ => true
    | _ => false
  if ps.all isSimple then
    let both : Pattern → Pattern
      | .withDefault (.name x) e => .withDefault (.name x) (setMember space x e)
      | p => p
    pure [placed start (.vars kind (ps.map both))]
  else
    let sets := (Pattern.namesOf ps).map fun x => setMember space x (.name x)
    pure [placed start (.vars kind ps), .expr (match sets with
      | [e] => e
      | es => .sequence es)]

/-- Variables, passed on. -/
def deliverVariables (role : Role) (start : Nat) (kind : VarKind) (ps : List Pattern) :
    Plain (List Stmt) :=
  match role with
  | .member space => memberVariables space start kind ps
  | role => pure (deliver role start [] (.vars kind ps))

/-- The names of functions, classes, enumerations and namespaces that a statement declares. A namespace
of such a name goes on with what is there. -/
def hostNames : Stmt → List String
  | .placed _ s | .exportDeclaration s => hostNames s
  | .function f => f.name?.toList
  | .class c => c.name?.toList
  | .enumeration x _ _ | .space x _ _ => [x]
  | _ => []

/-- The value that a namespace begins with, unless there is one. -/
private def freshSpace (role : Role) (x : String) : Expr :=
  match role with
  | .member space => .binary "||" (spaceMember space x) (setMember space x (.object [] false))
  | _ => .object [] false

/-- What a namespace leaves: a variable, unless its name is declared already, and the call of a function
that fills the object; `param` is the name of that object within. -/
def spaceStatements (role : Role) (start : Nat) (x param : String) (isDeclared : Bool)
    (directives : List Directive) (body : List Stmt) : List Stmt :=
  let variable_ := Stmt.vars .let [.name x]
  let declared := match role with
    | .exported _ => Stmt.exportDeclaration variable_
    | _ => variable_
  let start_ := Expr.assign "=" (.name x) (freshSpace role x)
  let call := Expr.call (.function (.mk {} none [.name param] directives body 0))
    [.binary "||" (.name x) start_] false false 0
  (if isDeclared then [] else [declared]) ++ [placed start (.expr call)]

end AppMend.Script.Plain
