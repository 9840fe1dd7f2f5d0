import AppMend.Path
import AppMend.Script.Plain.Statement
import AppMend.Script.Printer

/-!
# Modules

A module is a script with imports and exports. `plainForm` writes a module in plain form, without types
and without elements; `sources` lists what a module imports or passes on, in the order it is written.

Imports and exports of types are left out. A module whose last import or export went that way says so
by an empty export, for otherwise it would be a module no more.
-/

namespace AppMend.Script

/-- How a file is read, by the extension of its path. -/
def Dialect.ofPath (path : String) : Dialect :=
  match Path.extension? path with
  | some "ts" | some "mts" | some "cts" => ⟨true, false⟩
  | some "tsx" => ⟨true, true⟩
  | _ => ⟨false, true⟩

/-- Scripts without types and without elements. -/
def Dialect.plain : Dialect := ⟨false, false⟩

/-! ## Imports and exports -/

namespace Stmt

/-- The names that a statement exports. -/
def exportedNames (s : Stmt) : List (List Nat) :=
  match s.bare with
  | .exportDeclaration d => d.declaredNames.map pointsOf
  | .exportList names _ => names.map (·.exported.value)
  | .exportAll (some x) _ => [x.value]
  | .exportDefault _ | .exportDefaultFunction _ | .exportDefaultClass _ => [pointsOf "default"]
  | _ => []

/-- The names in a statement's imports and exports that may be written as strings. -/
def moduleNames (s : Stmt) : List ModuleName :=
  match s.bare with
  | .imports { specifiers := some specifiers, .. } => specifiers.filterMap fun
    | .named imported _ _ => some imported
    | _ => none
  | .exportList names _ => names.flatMap fun n => [n.localName, n.exported]
  | .exportAll (some x) _ => [x]
  | _ => []

/-- What a statement imports from or passes on. -/
def source? (s : Stmt) : Option String :=
  match s.bare with
  | .imports i => some (textOf i.source.value)
  | .exportList _ (some source) | .exportAll _ source | .typeExport (some source) =>
    some (textOf source.value)
  | _ => none

/-- Whether a statement imports. -/
def isImport (s : Stmt) : Bool :=
  match s.bare with
  | .imports _ => true
  | _ => false

/-- Whether a statement makes a script a module. -/
def isModuleSyntax (s : Stmt) : Bool :=
  match s.bare with
  | .imports _ | .exportDeclaration _ | .exportList .. | .exportAll .. | .exportDefault _
  | .exportDefaultFunction _ | .exportDefaultClass _ | .typeExport _ => true
  | _ => false

/-! ## Types -/

/-- The names that a statement gives to what is no value of the module: types, and what is declared to
exist elsewhere. -/
def typeNames (s : Stmt) : List String :=
  match s.bare with
  | .exportDeclaration d =>
    match d.bare with
    | .types names | .ambient names => names
    | _ => []
  | .types names | .ambient names => names
  | .imports { specifiers := some specifiers, isType, .. } => specifiers.filterMap fun
    | .named _ x isOne => if isType || isOne then some x else none
    | .standard x | .whole x => if isType then some x else none
  | _ => []

/-- The names that a statement gives to values. -/
def valueNames (s : Stmt) : List String := s.lexicalNames ++ s.varNames

end Stmt

/-- An import without the types among what it binds; nothing if it only binds types. -/
private def Import.withoutTypes (i : Import) : Option Import :=
  match i.specifiers with
  | none => some i
  | some specifiers =>
    if i.isType then none
    else
      let kept := specifiers.filter fun
        | .named _ _ isType => !isType
        | _ => true
      some { i with specifiers := if kept.isEmpty then none else some kept }

/-- A statement without imports and exports of types, some of which go by the names of types. -/
def Stmt.withoutTypes (typeNames : List String) : Stmt → Option Stmt
  | .placed start s => (s.withoutTypes typeNames).map (.placed start)
  | .imports i => i.withoutTypes.map .imports
  | .exportList [] source => some (.exportList [] source)
  | .exportList names source =>
    let kept := names.filter fun n =>
      !n.isType && !(source.isNone && typeNames.contains (textOf n.localName.value))
    if kept.isEmpty then none else some (.exportList kept source)
  | .exportDefault e =>
    match e with
    | .name x => if typeNames.contains x then none else some (.exportDefault e)
    | _ => some (.exportDefault e)
  | .typeExport _ => none
  | s => some s

/-- The statements of a module without imports and exports of types. -/
def eraseTypes (body : List Stmt) : List Stmt :=
  let values := body.flatMap Stmt.valueNames
  let typeNames := (body.flatMap Stmt.typeNames).filter (!values.contains ·)
  body.filterMap (·.withoutTypes typeNames)

/-! ## Plain form -/

/-- Whether something occurs twice in a list. -/
def hasRepeats : List (List Nat) → Bool
  | [] => false
  | x :: xs => xs.contains x || hasRepeats xs

/-- Whether a name is a text: no half of a surrogate pair stands alone in it. -/
def ModuleName.isText (x : ModuleName) : Bool := pointsOf (textOf x.value) == x.value

/-- Reads a module. The names of its imports and exports are texts, and without types, no name may be
exported twice. -/
def readModule (d : Dialect) (text : List Char) : Except Fault Script := do
  let s ← read d text
  if (s.items.flatMap fun i => i.body.moduleNames).any (!·.isText) then
    throw ⟨"A name of a module is no text", 0⟩
  if !d.types && hasRepeats (s.items.flatMap fun i => i.body.exportedNames) then
    throw ⟨"A name is exported twice", 0⟩
  pure s

/-- Statements with imports in front of all that is no import. -/
private def withImports (imports body : List Stmt) : List Stmt :=
  body.takeWhile Stmt.isImport ++ imports ++ body.dropWhile Stmt.isImport

/-- A module in plain form. -/
def plainForm (path : String) (text : List Char) : Except Fault String := do
  let d := Dialect.ofPath path
  let s ← readModule d text
  let pragmas := if d.markup then Pragmas.ofComments (s.comments.map (·.2)) else {}
  let style ← Plain.ElementStyle.ofPragmas pragmas
  let body := s.items.map (·.body)
  let kept := if d.types then eraseTypes body else body
  let (plain, made) ← (Plain.statements { style } [] kept).run { names := s.names }
  let isModule := body.any Stmt.isModuleSyntax && !plain.any Stmt.isModuleSyntax
  let ending := if isModule then [.exportList [] none] else []
  pure (printScript s (withImports (Plain.helperImports made.helpers) (plain ++ ending)))

/-- The sources that a module imports or passes on, in order. -/
def sources (path : String) (text : List Char) : Except Fault (List String) := do
  let s ← readModule (Dialect.ofPath path) text
  pure (s.items.filterMap (·.body.source?))

end AppMend.Script
