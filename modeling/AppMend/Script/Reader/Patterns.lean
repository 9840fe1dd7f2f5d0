import AppMend.Script.Reader.Types

/-!
# Reading patterns

Patterns are read in two ways. What a declaration binds is read as such; what an assignment changes is
first read as an expression, because only the sign after it tells, and then turned into a pattern.
-/

namespace AppMend.Script

/-- The target of an expression that takes no value apart, whatever types are written at it. -/
def Expr.simpleTarget? : Expr → Option Pattern
  | .name x => some (.name x)
  | .member e x false => some (.target (.member e x false))
  | .index e i false => some (.target (.index e i false))
  | .parens _ e | .typed e | .asserted _ e => e.simpleTarget?
  | _ => none

namespace Reader

/-! ## Targets of assignments -/

/-- The target that an expression without parts is. -/
def simpleTarget (pos : Nat) (e : Expr) : Reader Pattern :=
  match e.simpleTarget? with
  | some p => pure p
  | none => failAt pos "Invalid target of an assignment"

/-- Takes back that a default at a place has no target. -/
private def settle (pos : Nat) : Reader Unit := modify fun s =>
  { s with covers := s.covers.filter (· != pos) }

mutual

/-- The target that an expression is when something is assigned to it, with a default if it may have
one. -/
def targetOf (pos : Nat) (mayDefault : Bool) : Expr → Reader Pattern
  | .array items comma => do
    let ps ← itemTargets pos comma items
    pure (.array ps)
  | .object members comma => do
    let ps ← memberTargets pos comma members
    pure (.object false ps)
  | .assign op p e =>
    if mayDefault && op == "=" then pure (.withDefault p e)
    else failAt pos "Invalid target of an assignment"
  | e => simpleTarget pos e

/-- The targets that the items of an array are; `comma` tells whether one follows the last. -/
def itemTargets (pos : Nat) (comma : Bool) : List Expr → Reader (List Pattern)
  | [] => pure []
  | .hole :: es => do
    let ps ← itemTargets pos comma es
    pure (.hole :: ps)
  | .spread e :: es => do
    if !es.isEmpty || comma then failAt pos "A rest must be the last"
    let p ← targetOf pos false e
    pure [.rest p]
  | e :: es => do
    let p ← targetOf pos true e
    let ps ← itemTargets pos comma es
    pure (p :: ps)

/-- The targets that the members of an object are. -/
def memberTargets (pos : Nat) (comma : Bool) : List Member → Reader (List Pattern)
  | [] => pure []
  | .spread e :: ms => do
    if !ms.isEmpty || comma then failAt pos "A rest must be the last"
    let p ← simpleTarget pos e
    pure [.rest p]
  | .field key e short :: ms => do
    let p ← targetOf pos true e
    let ps ← memberTargets pos comma ms
    pure (.field key p short :: ps)
  | .withDefault at_ x e :: ms => do
    settle at_
    let ps ← memberTargets pos comma ms
    pure (.field (.name x) (.withDefault (.name x) e) true :: ps)
  | _ :: _ => failAt pos "Invalid target of an assignment"

end

/-! ## Bindings -/

/-- A pattern with the default it may have. -/
def withDefaultIfAny (self : Self) (p : Pattern) : Reader Pattern := do
  if ← eatSign "=" then
    let e ← self (.assignment false false)
    pure (.withDefault p e)
  else pure p

/-- Fails unless a list ends here. -/
private def comesLast (close : String) : Reader Unit := do
  unless ← isSign close do fail "A rest must be the last"

private def boundItem (self : Self) : Reader Pattern := do
  if ← isSign "," then pure .hole
  else if ← eatSign "..." then
    let p ← self .binding
    comesLast "]"
    pure (.rest p)
  else
    let p ← self .binding
    withDefaultIfAny self p

private def boundField (self : Self) : Reader Pattern := do
  if ← eatSign "..." then
    let x ← identifier
    comesLast closeBrace
    pure (.rest (.name x))
  else
    let t ← token
    if isAnyWord t.lexeme && t.next.lexeme != .sign ":" then
      let x ← identifier
      let p ← withDefaultIfAny self (.name x)
      pure (.field (.name x) p true)
    else
      let key ← memberKey self
      expectSign ":"
      let p ← self .binding
      let p ← withDefaultIfAny self p
      pure (.field key p false)

/-- What is bound: a name, or an array or an object of bindings. -/
def bindingRule (self : Self) : Reader Pattern := do
  if ← eatSign "[" then
    let items ← listUntil "]" (boundItem self)
    pure (.array items)
  else if ← eatSign openBrace then
    let fields ← listUntil closeBrace (boundField self)
    pure (.object true fields)
  else .name <$> identifier

end Reader

end AppMend.Script
