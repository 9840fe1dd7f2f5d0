import AppMend.Script.Plain.Basic
import AppMend.Script.Reader.Keys

/-!
# Elements as calls

An element is written as the call of a function that creates it. There are two styles. In the one, the
function is given the tag, an object of the attributes or `null`, and the contents one by one. In the
other it is imported for the purpose: the contents are one more attribute, and the key of the element,
which tells it from the elements beside it, stands apart from the attributes.
-/

namespace AppMend.Script.Plain

/-! ## Attributes -/

/-- Whether a member of an object sets what the object inherits from. -/
private def setsPrototype : Member → Bool
  | .field key _ short => !short && Reader.isKey "__proto__" key
  | .method _ key _ => Reader.isKey "__proto__" key
  | _ => false

/-- An attribute as members of an object. The members of an object that is written in place are taken
out of it, unless one of them sets what it inherits from. -/
private def attributeMembers : Member → List Member
  | .slot _ key value => [.field key (value.getD (.bool true)) false]
  | .spread (.object members comma) =>
    if members.any setsPrototype then [.spread (.object members comma)] else members
  | m => [m]

private def isKeySlot : Member → Bool
  | .slot _ (.name x) _ => x == "key"
  | _ => false

private def isSpread : Member → Bool
  | .spread _ => true
  | _ => false

/-- Whether a key comes after an object whose members are attributes, one of which may be a key too. -/
private def keyIsLate (attributes : List Member) : Bool :=
  (attributes.dropWhile (!isSpread ·)).any isKeySlot

private def isObject : Expr → Bool
  | .object .. => true
  | _ => false

/-! ## Calls -/

/-- What is within an element, without its place. -/
private def content : Expr → Expr
  | .placed _ e => e
  | e => e

/-- The call of a function for an element, which has no effects. -/
private def creation (f : Expr) (args : List Expr) (stop : Nat) : Expr := .call f args false true stop

/-- A call with the tag, the attributes and the contents one by one. -/
private def spelledOut (f tag : Expr) (attributes : List Member) (children : List Expr) (stop : Nat) :
    Expr :=
  let object := match attributes with
    | [] => Expr.null
    | [.spread e] => if isObject e then .object (attributeMembers (.spread e)) false else e
    | ms => .object (ms.flatMap attributeMembers) false
  creation f (tag :: object :: children) stop

/-- The attribute that holds the contents of an element, and whether it is a list. -/
private def childrenMember (children : List Expr) : List Member × Bool :=
  let member (e : Expr) : Member := .field (.name "children") e false
  match children.map content with
  | [] => ([], false)
  | [.spread e] => ([member (.array [.spread e] false)], true)
  | [e] => ([member e], false)
  | es => ([member (.array es false)], true)

/-- A call of an imported function: the contents are an attribute. -/
private def gathered (source : String) (tag : Expr) (attributes : List Member) (children : List Expr)
    (stop : Nat) : Plain Expr := do
  let (own, isList) := childrenMember children
  let members := (attributes.filter (!isKeySlot ·)).flatMap attributeMembers ++ own
  let called := if isList then "jsxs" else "jsx"
  let f ← helper (source ++ "/jsx-runtime") called called
  let keys := attributes.filterMap fun
    | .slot _ (.name "key") value => some value
    | _ => none
  match keys.getLast? with
  | some none => throw ⟨"A key needs a value", stop⟩
  | some (some key) => pure (creation f [tag, .object members false, key] stop)
  | none => pure (creation f [tag, .object members false] stop)

/-- A tag that can be written: no name of an element has a colon. -/
private def checkTag : Expr → Plain Unit
  | .placed pos (.string value) => do
    if value.contains ':'.toNat then throw ⟨"A tag cannot have a colon", pos⟩
  | _ => pure ()

mutual

/-- An element as the call that creates it; anything else as it is. What is in braces within it is in
plain form already. -/
def creationOf (style : ElementStyle) : Expr → Plain Expr
  | .element _ stop tag attributes children => do
    checkTag tag
    let attributes ← creationsIn style attributes
    match style with
    | .named factory _ =>
      let children ← creationsOf style children
      pure (spelledOut factory tag attributes children stop)
    | .imported source =>
      if keyIsLate attributes then
        let children ← creationsOf style children
        let f ← helper source "createElement" "createElement"
        pure (spelledOut f tag attributes children stop)
      else
        let children ← creationsOf style children
        gathered source tag attributes children stop
  | .fragment _ stop children => do
    match style with
    | .named factory fragment =>
      let children ← creationsOf style children
      pure (spelledOut factory fragment [] children stop)
    | .imported source =>
      let tag ← helper (source ++ "/jsx-runtime") "Fragment" "Fragment"
      let children ← creationsOf style children
      gathered source tag [] children stop
  | .placed start e => do
    let e ← creationOf style e
    pure (.placed start e)
  | e => pure e

def creationsOf (style : ElementStyle) : List Expr → Plain (List Expr)
  | [] => pure []
  | e :: es => do
    let e ← creationOf style e
    let es ← creationsOf style es
    pure (e :: es)

/-- Attributes with elements for values as calls. -/
def creationsIn (style : ElementStyle) : List Member → Plain (List Member)
  | [] => pure []
  | .slot isAccessor key (some e) :: ms => do
    let e ← creationOf style e
    let ms ← creationsIn style ms
    pure (.slot isAccessor key (some e) :: ms)
  | m :: ms => do
    let ms ← creationsIn style ms
    pure (m :: ms)

end

/-! ## Styles -/

/-- The expression that names joined by points stand for. -/
private def pathExpr (path : String) : Expr :=
  match path.splitOn "." with
  | [] => .name path
  | "import" :: "meta" :: more => more.foldl (fun e x => .member e x false) (.metaProperty "import.meta")
  | x :: more => more.foldl (fun e x => .member e x false) (if x == "this" then .this else .name x)

/-- The style that comments ask for, unless they ask for what the style has no place for. -/
def ElementStyle.ofPragmas (p : Pragmas) : Except Fault ElementStyle :=
  if p.isAutomatic then
    if p.factory.isSome || p.fragment.isSome then throw ⟨"Imported functions have names of their own", 0⟩
    else pure (.imported (p.source.getD "react"))
  else if p.source.isSome then throw ⟨"Only imported functions have a source", 0⟩
  else
    pure (.named (pathExpr (p.factory.getD "React.createElement"))
      (pathExpr (p.fragment.getD "React.Fragment")))

/-- The imports of functions, one for each source. -/
def helperImports (helpers : List Helper) : List Stmt :=
  let sources := (helpers.map (·.source)).eraseDups
  sources.map fun source =>
    let own := helpers.filter (·.source == source)
    .imports
      { stage := none, source := ⟨pointsOf source, none⟩, isType := false,
        specifiers := some (own.map fun h =>
          .named ⟨pointsOf h.imported, false⟩ h.localName false) }

end AppMend.Script.Plain
