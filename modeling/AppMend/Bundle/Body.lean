import AppMend.Bundle.Failure
import AppMend.Bundle.Resolution
import AppMend.Json.Printer
import AppMend.Text.Edit

/-!
# Modules in a registry

In a bundle a module is the body of a function that is given the object of its exports. Each import
becomes a request to the registry and variables for what it binds; each export becomes a getter, all of
them defined before the body runs. The rest of the module stays as it is written.
-/

namespace AppMend.Bundle

open Script Text

/-- The body of a module, and what it imports in the order of the requests. -/
structure ModuleBody where
  code : String
  requests : List String
deriving DecidableEq, Inhabited

/-- What is gathered while the statements of a module are passed. -/
structure Gathering where
  edits : List Edit := []
  /-- Exported names with the expressions that give their values. -/
  getters : List (String × String) := []
  requests : List String := []
  /-- How many variables were made up. -/
  made : Nat := 0

namespace Gathering

def edit (r : Gathering) (start stop : Nat) (new : String) : Gathering :=
  { r with edits := r.edits ++ [⟨start, stop, new.toList⟩] }

def getter (r : Gathering) (name value : String) : Gathering :=
  { r with getters := r.getters ++ [(name, value)] }

def request (r : Gathering) (specifier : String) : Gathering :=
  { r with requests := r.requests ++ [specifier] }

/-- A variable that was not there before. -/
def make (r : Gathering) (purpose : String) : String × Gathering :=
  (s!"__{purpose}_{r.made}", { r with made := r.made + 1 })

end Gathering

/-- The request for what an import stands for. -/
def requestCode : Resolution → String
  | .inside path => "__require(" ++ Json.quote path ++ ")"
  | .outside name => "__external(" ++ Json.quote name ++ ")"

/-- A name as a key of an object: bare if letters and digits allow it. -/
def propertyKey (name : String) : String :=
  let ok (c : Char) : Bool := isAlnum c || c == '_' || c == '$'
  let starts := match name.toList with
    | c :: _ => isLetter c || c == '_' || c == '$'
    | [] => false
  if starts && name.toList.all ok then name else Json.quote name

/-- The variable of an import of its own, if a specifier makes one. -/
def ownVariable? (module : String) : Specifier → Option String
  | .standard x => some s!"const {x} = __default({module});"
  | .whole x => some s!"const {x} = {module};"
  | .named imported x _ =>
    if textOf imported.value == "default" then some s!"const {x} = __default({module});" else none

/-- The field of the module that a specifier binds, if it binds one. -/
def boundField? : Specifier → Option String
  | .named imported x _ =>
    let name := textOf imported.value
    if name == "default" then none
    else if name == x then some x
    else some (propertyKey name ++ ": " ++ x)
  | _ => none

/-- The variables of an import. -/
def importCode (module target : String) (specifiers : List Specifier) : String :=
  let fields := specifiers.filterMap boundField?
  " ".intercalate (s!"const {module} = {target};" :: specifiers.filterMap (ownVariable? module) ++
    (if fields.isEmpty then []
      else ["const \x7b " ++ ", ".intercalate fields ++ " \x7d = " ++ module ++ ";"]))

/-- What a statement adds to the body. -/
def gatherItem (resolve : String → Resolution) (i : Item) (r : Gathering) : Gathering :=
  match i.body.bare with
  | .imports clause =>
    let name := textOf clause.source.value
    let target := requestCode (resolve name)
    let r := r.request name
    match clause.specifiers with
    | none => r.edit i.start i.stop (target ++ ";")
    | some specifiers =>
      let (module, r) := r.make "import"
      r.edit i.start i.stop (importCode module target specifiers)
  | .exportDeclaration d =>
    (d.declaredNames.foldl (fun r x => r.getter x x) r).edit i.start i.inner ""
  | .exportList names none =>
    (names.foldl (fun r n => r.getter (textOf n.exported.value) (textOf n.localName.value)) r).edit
      i.start i.stop ""
  | .exportList names (some source) =>
    let name := textOf source.value
    let (module, r) := r.make "reexport"
    let r := r.request name
    let field (n : ExportName) : String := module ++ "[" ++ Json.quote (textOf n.localName.value) ++ "]"
    (names.foldl (fun r n => r.getter (textOf n.exported.value) (field n)) r).edit
      i.start i.stop s!"const {module} = {requestCode (resolve name)};"
  | .exportAll rename source =>
    let name := textOf source.value
    let r := r.request name
    let target := requestCode (resolve name)
    match rename with
    | none => r.edit i.start i.stop s!"__exportStar(exports, {target});"
    | some x =>
      let (module, r) := r.make "reexport"
      (r.getter (textOf x.value) module).edit i.start i.stop s!"const {module} = {target};"
  | .exportDefault _ => r.edit i.start i.inner "exports.default = "
  | .exportDefaultFunction f => byDefault r f.name?
  | .exportDefaultClass c => byDefault r c.name?
  | _ => r
where
  byDefault (r : Gathering) : Option String → Gathering
    | some x => (r.getter "default" x).edit i.start i.inner ""
    | none => (r.edit i.start i.inner "exports.default = ").edit i.stop i.stop ";"

/-- The definition of the exports. -/
def gettersCode (getters : List (String × String)) : String :=
  if getters.isEmpty then ""
  else
    "__export(exports, \x7b " ++
      ", ".intercalate (getters.map fun (name, value) => Json.quote name ++ ": () => " ++ value) ++
      " \x7d);\n"

/-- The body of a plain module in a registry. -/
def ModuleBody.ofCode (path : String) (code : String) (resolve : String → Resolution) :
    Except BundleFailure ModuleBody :=
  match readModule .plain code.toList with
  | .error f => .error (.unreadable path f)
  | .ok s =>
    let r := s.items.foldl (fun r i => gatherItem resolve i r) {}
    .ok
      { code := gettersCode r.getters ++ String.ofList (Edit.applyAll r.edits code.toList)
        requests := r.requests }

end AppMend.Bundle
