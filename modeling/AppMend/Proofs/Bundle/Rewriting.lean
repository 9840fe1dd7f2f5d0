import AppMend.Proofs.Bundle.Body

/-!
# What is written for the imports and exports of a module

The body of a module in a registry is its text with pieces of code in the place of imports and exports.
Here these pieces are kept as what they are, constants and the expressions that give their values, and so
are the getters of what is exported: `emission` is what is written for one statement. Its text is what the
statement adds to the body (`gatherItem_eq`), so the body of a module is the text of what is written for its
statements, one after the other (`ofCode_eq`). What a body exports and binds is read off the pieces.
-/

namespace AppMend.Bundle

open Script Text

/-! ## Pieces of code -/

/-- An expression that is written for an import or an export. -/
inductive Operand where
  /-- What the registry gives for an import. -/
  | request (r : Resolution)
  | name (x : String)
  /-- What a module is imported as by default. -/
  | standard (module : String)
  | property (module key : String)
deriving DecidableEq

def Operand.text : Operand → String
  | request r => requestCode r
  | name x => x
  | standard module => s!"__default({module})"
  | property module key => module ++ "[" ++ Json.quote key ++ "]"

/-- A piece of code that stands for an import or an export. -/
inductive Piece where
  | constant (x : String) (value : Operand)
  /-- Constants for properties of a module, each after its key. -/
  | fields (fields : List (String × String)) (module : String)
  /-- A request for a module that binds nothing. -/
  | run (r : Resolution)
  /-- All that a module exports is exported too. -/
  | passOn (r : Resolution)
  /-- What follows is exported by default. -/
  | standard
  | close
deriving DecidableEq

namespace Piece

/-- A property with the constant that it is bound to. -/
def fieldText (field : String × String) : String :=
  if field.1 == field.2 then field.2 else propertyKey field.1 ++ ": " ++ field.2

def text : Piece → String
  | constant x value => s!"const {x} = {value.text};"
  | fields fs module => "const \x7b " ++ ", ".intercalate (fs.map fieldText) ++ " \x7d = " ++ module ++ ";"
  | run r => requestCode r ++ ";"
  | passOn r => s!"__exportStar(exports, {requestCode r});"
  | standard => "exports.default = "
  | close => ";"

/-- The constants that a piece declares. -/
def binds : Piece → List String
  | constant x _ => [x]
  | fields fs _ => fs.map (·.2)
  | _ => []

def DeclaresNothing : Piece → Prop
  | constant .. | fields .. => False
  | _ => True

theorem binds_of_declaresNothing {p : Piece} (hp : p.DeclaresNothing) : p.binds = [] := by
  cases p with
  | constant | fields => exact hp.elim
  | _ => rfl

end Piece

/-- Pieces in the place of a stretch of a text. -/
structure Replacement where
  start : Nat
  stop : Nat
  pieces : List Piece

def Replacement.edit (e : Replacement) : Edit :=
  ⟨e.start, e.stop, (" ".intercalate (e.pieces.map Piece.text)).toList⟩

/-! ## What is written for a statement -/

/-- What is written for one statement. -/
structure Emission where
  /-- Exported names with what gives their values. -/
  getters : List (String × Operand) := []
  replacements : List Replacement := []
  /-- The constant that was made up for a module. -/
  temporary : Option String := none

namespace Emission

def pieces (e : Emission) : List Piece := e.replacements.flatMap (·.pieces)

/-- How many constants were made up. -/
def made (e : Emission) : Nat := e.temporary.toList.length

end Emission

/-- The name of a constant that is made up. -/
def temporaryName (purpose : String) (n : Nat) : String := s!"__{purpose}_{n}"

/-- The constant of an import of its own, if a specifier makes one. -/
def ownPiece? (module : String) : Specifier → Option Piece
  | .standard x => some (.constant x (.standard module))
  | .whole x => some (.constant x (.name module))
  | .named imported x _ =>
    if textOf imported.value == "default" then some (.constant x (.standard module)) else none

/-- The property of a module that a specifier binds, if it binds one. -/
def boundProperty? : Specifier → Option (String × String)
  | .named imported x _ =>
    if textOf imported.value == "default" then none else some (textOf imported.value, x)
  | _ => none

/-- The pieces that take from a module what an import binds. -/
def takingPieces (module : String) (specifiers : List Specifier) : List Piece :=
  let fields := specifiers.filterMap boundProperty?
  specifiers.filterMap (ownPiece? module) ++ if fields.isEmpty then [] else [.fields fields module]

/-- What is written for an import that binds something. -/
def importPieces (module : String) (r : Resolution) (specifiers : List Specifier) : List Piece :=
  .constant module (.request r) :: takingPieces module specifiers

/-- What is written for a statement after some constants were made up. -/
def emission (resolve : String → Resolution) (made : Nat) (i : Item) : Emission :=
  match i.body.bare with
  | .imports clause =>
    let r := resolve (textOf clause.source.value)
    match clause.specifiers with
    | none => { replacements := [⟨i.start, i.stop, [.run r]⟩] }
    | some specifiers =>
      let module := temporaryName "import" made
      { replacements := [⟨i.start, i.stop, importPieces module r specifiers⟩], temporary := module }
  | .exportDeclaration d =>
    { getters := d.declaredNames.map fun x => (x, .name x), replacements := [⟨i.start, i.inner, []⟩] }
  | .exportList names none =>
    { getters := names.map fun n => (textOf n.exported.value, .name (textOf n.localName.value))
      replacements := [⟨i.start, i.stop, []⟩] }
  | .exportList names (some source) =>
    let module := temporaryName "reexport" made
    { getters := names.map fun n => (textOf n.exported.value, .property module (textOf n.localName.value))
      replacements :=
        [⟨i.start, i.stop, [.constant module (.request (resolve (textOf source.value)))]⟩]
      temporary := module }
  | .exportAll none source =>
    { replacements := [⟨i.start, i.stop, [.passOn (resolve (textOf source.value))]⟩] }
  | .exportAll (some x) source =>
    let module := temporaryName "reexport" made
    { getters := [(textOf x.value, .name module)]
      replacements :=
        [⟨i.start, i.stop, [.constant module (.request (resolve (textOf source.value)))]⟩]
      temporary := module }
  | .exportDefault _ => { replacements := [⟨i.start, i.inner, [.standard]⟩] }
  | .exportDefaultFunction f => byDefault f.name?
  | .exportDefaultClass c => byDefault c.name?
  | _ => {}
where
  byDefault : Option String → Emission
    | some x => { getters := [("default", .name x)], replacements := [⟨i.start, i.inner, []⟩] }
    | none => { replacements := [⟨i.start, i.inner, [.standard]⟩, ⟨i.stop, i.stop, [.close]⟩] }

/-- What is written for statements one after the other. -/
def emissions (resolve : String → Resolution) : Nat → List Item → List Emission
  | _, [] => []
  | made, i :: items =>
    emission resolve made i :: emissions resolve (made + (emission resolve made i).made) items

theorem mem_emissions {resolve : String → Resolution} {items : List Item} {made : Nat}
    {e : Emission} (h : e ∈ emissions resolve made items) : ∃ i ∈ items, ∃ made', e = emission resolve made' i := by
  induction items generalizing made with
  | nil => cases h
  | cons i items ih =>
      rcases List.mem_cons.mp h with rfl | h
      · exact ⟨i, List.mem_cons_self, made, rfl⟩
      · obtain ⟨j, hj, hmade⟩ := ih h
        exact ⟨j, List.mem_cons_of_mem _ hj, hmade⟩

/-- Each statement has its part in what is written. -/
theorem exists_mem_emissions {items : List Item} {i : Item} (h : i ∈ items) (resolve : String → Resolution)
    (made : Nat) : ∃ made', emission resolve made' i ∈ emissions resolve made items := by
  induction items generalizing made with
  | nil => cases h
  | cons j items ih =>
      rcases List.mem_cons.mp h with rfl | h
      · exact ⟨made, List.mem_cons_self⟩
      · obtain ⟨made', hmem⟩ := ih h (made + (emission resolve made j).made)
        exact ⟨made', List.mem_cons_of_mem _ hmem⟩

/-! ## The text of it -/

/-- What was gathered, and what is written for one statement more. -/
def Gathering.after (r : Gathering) (e : Emission) (requests : List String) : Gathering where
  edits := r.edits ++ e.replacements.map Replacement.edit
  getters := r.getters ++ e.getters.map fun g => (g.1, g.2.text)
  requests := r.requests ++ requests
  made := r.made + e.made

theorem foldl_getter {γ : Type} (name value : γ → String) (xs : List γ) (r : Gathering) :
    xs.foldl (fun r x => r.getter (name x) (value x)) r =
      { r with getters := r.getters ++ xs.map fun x => (name x, value x) } := by
  induction xs generalizing r with
  | nil => simp
  | cons x xs ih =>
      rw [List.foldl_cons, ih]
      simp [Gathering.getter]

theorem text_constant (x : String) (value : Operand) :
    (Piece.constant x value).text = "const " ++ x ++ " = " ++ value.text ++ ";" := rfl

/-- The text of a constant that is what a module is imported as by default. -/
theorem text_standard (x module : String) : (Piece.constant x (.standard module)).text =
    "const " ++ x ++ " = __default(" ++ module ++ ");" := by
  have hvalue : (Operand.standard module).text = "__default(" ++ module ++ ")" := rfl
  have hopen : " = __default(" = " = " ++ "__default(" := by decide
  have hclose : ");" = ")" ++ ";" := by decide
  rw [text_constant, hvalue]
  simp only [hopen, hclose, String.append_assoc]

/-- The edits of pieces that stand alone. -/
@[simp] theorem edit_nil (start stop : Nat) : Replacement.edit ⟨start, stop, []⟩ = ⟨start, stop, []⟩ := rfl

@[simp] theorem edit_singleton (start stop : Nat) (p : Piece) :
    Replacement.edit ⟨start, stop, [p]⟩ = ⟨start, stop, p.text.toList⟩ := rfl

theorem text_ownPiece? (module : String) (s : Specifier) :
    (ownPiece? module s).map Piece.text = ownVariable? module s := by
  cases s with
  | standard x => exact congrArg some (text_standard x module)
  | whole x => rfl
  | named imported x isType =>
      simp only [ownPiece?, ownVariable?]
      split
      · exact congrArg some (text_standard x module)
      · rfl

theorem text_boundProperty? (s : Specifier) :
    (boundProperty? s).map Piece.fieldText = boundField? s := by
  cases s with
  | standard x => rfl
  | whole x => rfl
  | named imported x isType =>
      simp only [boundProperty?, boundField?]
      split
      · rfl
      · simp only [Option.map_some, Piece.fieldText]
        split <;> rfl

theorem text_importPieces (module : String) (r : Resolution) (specifiers : List Specifier) :
    " ".intercalate ((importPieces module r specifiers).map Piece.text) =
      importCode module (requestCode r) specifiers := by
  have hown : (specifiers.filterMap (ownPiece? module)).map Piece.text =
      specifiers.filterMap (ownVariable? module) := by
    rw [List.map_filterMap]
    exact congrArg (specifiers.filterMap ·) (funext (text_ownPiece? module))
  have hfields : (specifiers.filterMap boundProperty?).map Piece.fieldText =
      specifiers.filterMap boundField? := by
    rw [List.map_filterMap]
    exact congrArg (specifiers.filterMap ·) (funext text_boundProperty?)
  unfold importPieces takingPieces importCode
  simp only [List.cons_append, List.map_cons, List.map_append, hown, ← hfields, List.isEmpty_map]
  split <;> rfl

theorem byDefault_eq (i : Item) (r : Gathering) (x : Option String) :
    gatherItem.byDefault i r x = r.after (emission.byDefault i x) [] := by
  cases x with
  | some x =>
      simp only [gatherItem.byDefault, emission.byDefault, Gathering.after, Gathering.edit,
        Gathering.getter, Emission.made, List.append_nil]
      rfl
  | none =>
      simp only [gatherItem.byDefault, emission.byDefault, Gathering.after, Gathering.edit,
        Emission.made, List.append_nil, List.append_assoc, List.map_nil]
      rfl

/-- **What is written for a statement is what the statement adds to the body.** -/
theorem gatherItem_eq (resolve : String → Resolution) (i : Item) (r : Gathering) :
    gatherItem resolve i r = r.after (emission resolve r.made i) (requested? i.body).toList := by
  unfold gatherItem emission requested?
  cases hb : i.body.bare with
  | imports clause =>
      dsimp only
      cases clause.specifiers with
      | none =>
          simp only [Gathering.after, Gathering.edit, Gathering.request, Emission.made, List.map_nil,
            List.append_nil]
          rfl
      | some specifiers =>
          simp only [Gathering.after, Gathering.edit, Gathering.request, Gathering.make, Emission.made,
            Replacement.edit, text_importPieces, List.map_cons, List.map_nil, List.append_nil]
          rfl
  | exportDeclaration d =>
      simp only [Gathering.after, Gathering.edit, foldl_getter, Emission.made, List.map_map,
        Option.toList_none, List.append_nil]
      rfl
  | exportList names source =>
      cases source with
      | none =>
          simp only [Gathering.after, Gathering.edit, foldl_getter, Emission.made, List.map_map,
            Option.toList_none, List.append_nil]
          rfl
      | some source =>
          simp only [Gathering.after, Gathering.edit, Gathering.request, Gathering.make, foldl_getter,
            Emission.made, List.map_map]
          rfl
  | exportAll rename source =>
      cases rename with
      | none =>
          simp only [Gathering.after, Gathering.edit, Gathering.request, Emission.made, List.map_nil,
            List.append_nil]
          rfl
      | some x => rfl
  | exportDefaultFunction g => exact byDefault_eq i r g.name?
  | exportDefaultClass c => exact byDefault_eq i r c.name?
  | exportDefault e =>
      simp only [Gathering.after, Gathering.edit, Emission.made, List.map_nil, List.append_nil,
        Option.toList_none]
      rfl
  | _ =>
      simp only [Gathering.after, Emission.made, List.map_nil, List.append_nil, Option.toList_none]
      rfl

/-- The body of a module: what is written for its statements, in its text. -/
def bodyCode (es : List Emission) (code : String) : String :=
  gettersCode ((es.flatMap (·.getters)).map fun g => (g.1, g.2.text)) ++
    String.ofList (Edit.applyAll ((es.flatMap (·.replacements)).map Replacement.edit) code.toList)

theorem gather_eq (resolve : String → Resolution) (items : List Item) (r : Gathering) :
    let es := emissions resolve r.made items
    let out := items.foldl (fun r i => gatherItem resolve i r) r
    out.edits = r.edits ++ (es.flatMap (·.replacements)).map Replacement.edit ∧
      out.getters = r.getters ++ (es.flatMap (·.getters)).map fun g => (g.1, g.2.text) := by
  induction items generalizing r with
  | nil => simp [emissions]
  | cons i items ih =>
      obtain ⟨hedits, hgetters⟩ := ih (gatherItem resolve i r)
      rw [List.foldl_cons]
      dsimp only at hedits hgetters ⊢
      rw [hedits, hgetters, gatherItem_eq]
      simp [Gathering.after, emissions]

/-- **The body of a module is what is written for its statements**, in its text. -/
theorem ofCode_eq {path code : String} {resolve : String → Resolution} {s : Script}
    (h : readModule .plain code.toList = .ok s) :
    ModuleBody.ofCode path code resolve =
      .ok ⟨bodyCode (emissions resolve 0 s.items) code, s.items.filterMap fun i => requested? i.body⟩ := by
  obtain ⟨hedits, hgetters⟩ := gather_eq resolve s.items {}
  dsimp only at hedits hgetters
  unfold ModuleBody.ofCode
  rw [h]
  simp only [hedits, hgetters, requests_gather, bodyCode, List.nil_append]

end AppMend.Bundle
