import AppMend.Script.Plain.Enumeration
import AppMend.Script.Plain.Markup
import AppMend.Script.Plain.Namespace

/-!
# Statements and expressions in plain form

One passage through a script writes it in plain form: what is typed stands without its type, elements,
enumerations and namespaces become what makes them, and the parameters of a constructor that are fields
are assigned to these. A statement may leave none or several.
-/

namespace AppMend.Script.Plain

/-! ## Constructors -/

private def isSuperCall (s : Stmt) : Bool :=
  match s.bare with
  | .expr (.call .super _ _ _ _) => true
  | _ => false

/-- The body of a constructor with assignments of parameters to the fields of their names: after the call
of the base constructor, or else in front. -/
private def withFields (fields : List String) (body : List Stmt) : List Stmt :=
  let sets := fields.map fun x =>
    Stmt.expr (.assign "=" (.target (.member .this x false)) (.name x))
  match body.findIdx? isSuperCall with
  | some i => body.take (i + 1) ++ sets ++ body.drop (i + 1)
  | none => sets ++ body

/-! ## Settings of parts -/

/-- The setting within a function. -/
private def Setting.inFunction (s : Setting) (x : Option String) (ps : List Pattern) (body : List Stmt) :
    Setting :=
  s.within fun _ => x.toList ++ Pattern.namesOf ps ++ Stmt.bodyNames body

/-- The setting within a block. -/
private def Setting.inBlock (s : Setting) (body : List Stmt) : Setting :=
  s.within fun _ => Stmt.blockNames body

/-- The setting within a loop. -/
private def Setting.inLoop (s : Setting) (head : Option Stmt) : Setting :=
  s.within fun _ => (head.map Stmt.lexicalNames).getD []

/-! ## The passage -/

mutual

/-- An expression in plain form. An element within another is left to the one around it, which `builds`
is false for. -/
def expr (s : Setting) (builds : Bool) : Expr → Plain Expr
  | .name x => pure (match s.renames.lookup x with
    | some enum => .member (.name enum) x false
    | none => .name x)
  | .template parts holes => do return .template parts (← exprs s true holes)
  | .tagged tag parts holes => do return .tagged (← expr s true tag) parts (← exprs s true holes)
  | .array items comma => do return .array (← exprs s true items) comma
  | .spread e => do return .spread (← expr s true e)
  | .object ms comma => do return .object (← members s true ms) comma
  | .function f => do return .function (← function s f)
  | .arrow f => do return .arrow (← function s f)
  | .arrowTo traits ps e => do
    let s := s.inFunction none ps []
    return .arrowTo traits (← patterns s ps) (← expr s true e)
  | .class c => do return .class (← «class» s c)
  | .unary op e => do return .unary op (← expr s true e)
  | .update op before (.name x) => pure (.update op before (.name x))
  | .update op before e => do return .update op before (← expr s true e)
  | .binary op l r => do return .binary op (← expr s true l) (← expr s true r)
  | .assign op p e => do return .assign op (← pattern s p) (← expr s true e)
  | .conditional test yes no => do
    return .conditional (← expr s true test) (← expr s true yes) (← expr s true no)
  | .call f args maybe isPure stop => do
    return .call (← expr s true f) (← exprs s true args) maybe isPure stop
  | .new f args isPure stop => do return .new (← expr s true f) (← exprs s true args) isPure stop
  | .member e x maybe => do return .member (← expr s true e) x maybe
  | .index e i maybe => do return .index (← expr s true e) (← expr s true i) maybe
  | .chain e => do return .chain (← expr s true e)
  | .sequence es => do return .sequence (← exprs s true es)
  | .yield delegate e => do return .yield delegate (← optExpr s e)
  | .await e => do return .await (← expr s true e)
  | .importCall stage args stop => do return .importCall stage (← exprs s true args) stop
  | .parens inner e => do return .parens inner (← expr s true e)
  | .typed e | .asserted _ e | .instantiated e => expr s builds e
  | .computed e => do return .computed (← expr s true e)
  | .placed start e => do return .placed (argumentStart start e) (← expr s builds e)
  | .element start stop tag attributes children => do
    let e := Expr.element start stop tag (← members s false attributes) (← exprs s false children)
    if builds then creationOf s.style e else pure e
  | .fragment start stop children => do
    let e := Expr.fragment start stop (← exprs s false children)
    if builds then creationOf s.style e else pure e
  | e => pure e

def exprs (s : Setting) (builds : Bool) : List Expr → Plain (List Expr)
  | [] => pure []
  | e :: es => do return (← expr s builds e) :: (← exprs s builds es)

def optExpr (s : Setting) : Option Expr → Plain (Option Expr)
  | none => pure none
  | some e => do return some (← expr s true e)

/-- A key in plain form; one that is a name stands for itself. -/
def key (s : Setting) : Expr → Plain Expr
  | .computed e => do return .computed (← expr s true e)
  | k => pure k

def member (s : Setting) (builds : Bool) : Member → Plain Member
  | .field k e short => do return .field (← key s k) (← expr s true e) short
  | .withDefault pos x e => do return .withDefault pos x (← expr s true e)
  | .method kind k f => do return .method kind (← key s k) (← function s f)
  | .spread e => do return .spread (← expr s true e)
  | .slot isAccessor k none => do return .slot isAccessor (← key s k) none
  | .slot isAccessor k (some e) => do return .slot isAccessor (← key s k) (some (← expr s builds e))
  | .staticBlock body => do return .staticBlock (← statements (s.inBlock body) [] body)
  | .placed start ds isStatic m => do
    return .placed start (← exprs s true ds) isStatic (← member s builds m)

def members (s : Setting) (builds : Bool) : List Member → Plain (List Member)
  | [] => pure []
  | m :: ms => do return (← member s builds m) :: (← members s builds ms)

/-- The statements that fill in the members of an enumeration, and what is known of these then. -/
def filling (s : Setting) (enum : String) (p : Progress) : List Member → Plain (List Stmt × KnownMembers)
  | [] => pure ([], p.known.members)
  | .placed start _ _ (.slot _ (.string name) none) :: ms => do
    let (value, e) := p.counted enum
    let (more, known) ← filling s enum (p.after name value) ms
    return (placed start (fillMember enum name e) :: more, known)
  | .placed start _ _ (.slot _ (.string name) (some init)) :: ms => do
    let value := init.constant? p.known
    let e ← match value with
      | some c => pure c.expr
      | none => expr (p.setting enum name s) true init
    let (more, known) ← filling s enum (p.after name value) ms
    return (placed start (fillMember enum name e) :: more, known)
  | _ :: ms => filling s enum p ms

def pattern (s : Setting) : Pattern → Plain Pattern
  | .name x => pure (.name x)
  | .target e => do return .target (← expr s true e)
  | .hole => pure .hole
  | .rest p => do return .rest (← pattern s p)
  | .withDefault p e => do return .withDefault (← pattern s p) (← expr s true e)
  | .array ps => do return .array (← patterns s ps)
  | .object binds ps => do return .object binds (← patterns s ps)
  | .field k p short => do return .field (← key s k) (← pattern s p) short
  | .decorated ds p => do return .decorated (← exprs s true ds) (← pattern s p)
  | .property p => pattern s p

def patterns (s : Setting) : List Pattern → Plain (List Pattern)
  | [] => pure []
  | p :: ps => do return (← pattern s p) :: (← patterns s ps)

def function (s : Setting) : Function → Plain Function
  | .mk traits x ps directives body stop => do
    let s := s.inFunction x ps body
    let qs ← patterns s ps
    let body ← statements s [] body
    return .mk traits x qs directives (withFields (Pattern.propertyNames ps) body) stop

def «class» (s : Setting) : Class → Plain Class
  | .mk ds x base ms => do
    let s := s.hide fun _ => x.toList
    return .mk (← exprs s true ds) x (← optExpr s base) (← members s true ms)

/-- A statement in plain form, at a place; `hosts` are the names before it that a namespace may go on
with. -/
def statement (s : Setting) (hosts : List String) (role : Role) (start : Nat) : Stmt → Plain (List Stmt)
  | .placed start x => statement s hosts role start x
  | .expr e => do return [placed start (.expr (← expr s true e))]
  | .vars kind ps => do deliverVariables role start kind (← patterns s ps)
  | .function f => do return deliver role start f.name?.toList (.function (← function s f))
  | .class c => do return deliver role start c.name?.toList (.class (← «class» s c))
  | .return e => do return [placed start (.return (← optExpr s e))]
  | .if test yes no => do
    let test ← expr s true test
    let yes ← unlessTypes yes (held s yes)
    let no ← if no.any isTypeSyntax then pure none else optHeld s no
    return [placed start (.if test yes no)]
  | .block body => do return [placed start (.block (← statements (s.inBlock body) [] body))]
  | .for init test update body => do
    let s := s.inLoop init
    let init ← optHeld s init
    let test ← optExpr s test
    return [placed start (.for init test (← optExpr s update) (← unlessTypes body (held s body)))]
  | .forIn left right body => do
    let s := s.inLoop (some left)
    let left ← held s left
    return [placed start (.forIn left (← expr s true right) (← unlessTypes body (held s body)))]
  | .forOf isAwait left right body => do
    let s := s.inLoop (some left)
    let left ← held s left
    let right ← expr s true right
    return [placed start (.forOf isAwait left right (← unlessTypes body (held s body)))]
  | .forTarget p => do return [.forTarget (← pattern s p)]
  | .while test body => do
    return [placed start (.while (← expr s true test) (← unlessTypes body (held s body)))]
  | .doWhile body test => do
    let body ← unlessTypes body (held s body)
    return [placed start (.doWhile body (← expr s true test))]
  | .with subject body => do return [placed start (.with (← expr s true subject) (← held s body))]
  | .try body handler finalizer => do
    let body ← statements (s.inBlock body) [] body
    return [placed start (.try body (← optHeld s handler) (← optHeld s finalizer))]
  | .handler ps body => do
    let s := s.within fun _ => Pattern.namesOf ps
    return [placed start (.handler (← patterns s ps) (← held s body))]
  | .throw e => do return [placed start (.throw (← expr s true e))]
  | .switch subject cases => do
    let subject ← expr s true subject
    return [placed start (.switch subject (← statements (s.within fun _ => []) [] cases))]
  | .case test body => do
    let test ← optExpr s test
    return [placed start (.case test (← statements s [] body))]
  | .labeled label body => do return [placed start (.labeled label (← held s body))]
  | .exportDeclaration d =>
    match s.space with
    | some space => statement s hosts (.member space) start d
    | none => statement s hosts (.exported start) start d
  | .exportDefault e => do return [placed start (.exportDefault (← expr s true e))]
  | .exportDefaultFunction f => do return [placed start (.exportDefaultFunction (← function s f))]
  | .exportDefaultClass c => do return [placed start (.exportDefaultClass (← «class» s c))]
  | .exportValue e => do
    let exports := Expr.member (.name "module") "exports" false
    return [placed start (.expr (.assign "=" (.target exports) (← expr s true e)))]
  | .enumeration x ms stop => do
    let enums := (← get).enums
    let p : Progress := { known := { members := (enums.lookup x).getD [], enums } }
    let (filled, known) ← filling s x p ms
    let again ← passEnumeration x known
    let isOwn := !s.isTop || (match role with
      | .exported _ => true
      | _ => false)
    let d := enumerationStatement x filled (!ms.any hasEffects) stop again isOwn
    return deliver (if again then .own else role) start [x] d
  | .space x directives body => do
    let param ← fresh x
    let inner ← statements { s with isTop := false, space := some param } [] body
    if inner.isEmpty then return []
    else return spaceStatements role start x param (hosts.contains x) directives inner
  | .importAlias x path => do
    let target := match path with
      | [] => Expr.name x
      | y :: more => more.foldl (fun e z => .member e z false) (.name y)
    return deliver role start [x] (.vars .var [.withDefault (.name x) target])
  | .importRequest x source => do
    let request := Expr.call (.name "require") [.string source] false false 0
    return deliver role start [x] (.vars .const [.withDefault (.name x) request])
  | .types _ | .ambient _ | .typeExport _ => pure []
  | .unwritable pos reason => throw ⟨reason, pos⟩
  | x => pure [placed start x]

/-- Statements in plain form, one after the other. -/
def statements (s : Setting) (hosts : List String) : List Stmt → Plain (List Stmt)
  | [] => pure []
  | x :: xs => do
    let first ← statement s hosts .own 0 x
    return first ++ (← statements s (hostNames x ++ hosts) xs)

/-- A statement that another statement holds. -/
def held (s : Setting) : Stmt → Plain Stmt
  | .placed start x => do
    return joined (← statement { s with isTop := false, space := none } [] .own start x)
  | .block body => do return .block (← statements (s.inBlock body) [] body)
  | .vars kind ps => do return .vars kind (← patterns s ps)
  | .forTarget p => do return .forTarget (← pattern s p)
  | .expr e => do return .expr (← expr s true e)
  | x => pure x

def optHeld (s : Setting) : Option Stmt → Plain (Option Stmt)
  | none => pure none
  | some x => do return some (← held s x)

end

end AppMend.Script.Plain
