import AppMend.Proofs.Bundle.Rewriting
import AppMend.Proofs.Script.Places

/-!
# The names of a rewritten module

A module that is rewritten for a registry keeps its names (`Bundle.names_kept`). What is written for it
exports what the module exports, each name once and in the order of the text; and it binds what the
module imports, besides the constants that are made up for the modules it asks for, which all have different
names.

Two names are not safe. The made-up constants are not kept apart from the names of the module, so an imported
name is declared once exactly if it is none of them. And a getter with the name `__proto__` is no getter of
the object it is written in, since there this name says what the object inherits from.
-/

namespace AppMend.Bundle

open Script

/-! ## What is exported and bound by what is written -/

/-- What a piece exports by itself. -/
def Piece.export? : Piece → Option (Export Resolution)
  | passOn r => some (.all r)
  | standard => some (.name "default")
  | _ => none

/-- What is exported by what is written for a statement: what it has getters for, and what its pieces export. -/
def Emission.exports (e : Emission) : List (Export Resolution) :=
  e.getters.map (fun g => .name g.1) ++ e.pieces.filterMap Piece.export?

/-- The constants that are declared by what is written for a statement. -/
def Emission.constants (e : Emission) : List String := e.pieces.flatMap Piece.binds

def exportsOf (es : List Emission) : List (Export Resolution) := es.flatMap (·.exports)

def constantsOf (es : List Emission) : List String := es.flatMap (·.constants)

def temporariesOf (es : List Emission) : List String := es.filterMap (·.temporary)

/-- Whether an export that is written is made when the body runs. The getters are written as an object, and its
key `__proto__` says what it inherits from. -/
def IsMade (e : Export Resolution) : Bool := e.name? != some "__proto__"

variable {resolve : String → Resolution} {made n m : Nat} {i : Item} {items : List Item}
  {purpose purpose' x : String}

/-! ## One statement -/

/-- An import of a module exports nothing. -/
theorem export?_importPieces (module : String) (r : Resolution) (specifiers : List Specifier) :
    (importPieces module r specifiers).filterMap Piece.export? = [] := by
  have hown (s : Specifier) : (ownPiece? module s).bind Piece.export? = none := by
    cases s with
    | named imported x isType =>
        simp only [ownPiece?]
        split <;> rfl
    | _ => rfl
  unfold importPieces takingPieces
  simp only [List.filterMap_cons, Piece.export?, List.filterMap_append,
    List.filterMap_filterMap, hown]
  split <;> simp [Piece.export?]

theorem exports_byDefault (i : Item) (x : Option String) :
    (emission.byDefault i x).exports = [.name "default"] := by
  cases x <;> rfl

/-- **What is written for a statement exports what the statement exports.** -/
theorem exports_emission (resolve : String → Resolution) (made : Nat) (i : Item) :
    (emission resolve made i).exports = i.body.exports.map (Export.map resolve) := by
  unfold emission Stmt.exports
  cases i.body.bare with
  | imports clause =>
      dsimp only
      cases clause.specifiers with
      | none => rfl
      | some specifiers => simp [Emission.exports, Emission.pieces, export?_importPieces]
  | exportDeclaration d => simp [Emission.exports, Emission.pieces, Export.map]
  | exportList names source =>
      -- the constant of a source exports nothing by itself
      have hconstant (module : String) (r : Resolution) :
          [Piece.constant module (.request r)].filterMap Piece.export? = [] := rfl
      cases source with
      | none => simp [Emission.exports, Emission.pieces, Export.map]
      | some source => simp [Emission.exports, Emission.pieces, Export.map, hconstant]
  | exportAll rename source => cases rename <;> rfl
  | exportDefaultFunction g => exact exports_byDefault i g.name?
  | exportDefaultClass c => exact exports_byDefault i c.name?
  | _ => rfl

/-- What constants are made up for. -/
def purposes : List String := ["import", "reexport"]

/-- What pieces are written for a statement that binds some names: those of an import, with a constant that is
made up for its module, or some that declare nothing. A re-export is written as an import that binds nothing. -/
inductive Emission.Form (e : Emission) (made : Nat) (imported : List String) : Prop where
  | asks {purpose : String} {r : Resolution} {specifiers : List Specifier} : purpose ∈ purposes →
      e.temporary = some (temporaryName purpose made) →
      e.pieces = importPieces (temporaryName purpose made) r specifiers →
      imported = specifiers.map Specifier.localName → Form e made imported
  | declaresNothing : e.temporary = none → (∀ p ∈ e.pieces, p.DeclaresNothing) → imported = [] →
      Form e made imported

theorem form_emission (resolve : String → Resolution) (made : Nat) (i : Item) :
    (emission resolve made i).Form made i.body.importedNames := by
  have hnothing : ∀ p ∈ ([] : List Piece), p.DeclaresNothing := by simp
  have hone {p : Piece} (hp : p.DeclaresNothing) : ∀ q ∈ [p], q.DeclaresNothing := by simpa using hp
  have hdefault (x : Option String) : (emission.byDefault i x).Form made [] := by
    cases x with
    | some x => exact .declaresNothing rfl hnothing rfl
    | none => exact .declaresNothing rfl (by simp [emission.byDefault, Emission.pieces, Piece.DeclaresNothing]) rfl
  unfold emission Stmt.importedNames
  cases i.body.bare with
  | imports clause =>
      obtain ⟨stage, specifiers, source, isType⟩ := clause
      cases specifiers with
      | none => exact .declaresNothing rfl (hone trivial) rfl
      | some specifiers => exact .asks (by decide) rfl (List.append_nil _) rfl
  | exportList names source =>
      cases source with
      | none => exact .declaresNothing rfl hnothing rfl
      | some source => exact @Emission.Form.asks _ _ _ "reexport" _ [] (by decide) rfl rfl rfl
  | exportAll rename source =>
      cases rename with
      | none => exact .declaresNothing rfl (hone trivial) rfl
      | some x => exact @Emission.Form.asks _ _ _ "reexport" _ [] (by decide) rfl rfl rfl
  | exportDefaultFunction g => exact hdefault g.name?
  | exportDefaultClass c => exact hdefault c.name?
  | exportDefault e => exact .declaresNothing rfl (hone trivial) rfl
  | _ => exact .declaresNothing rfl hnothing rfl

/-- A specifier is bound by a piece of its own or as a property. -/
theorem perm_localName (module : String) (specifiers : List Specifier) :
    ((specifiers.filterMap (ownPiece? module)).flatMap Piece.binds ++
      (specifiers.filterMap boundProperty?).map (·.2)).Perm (specifiers.map Specifier.localName) := by
  induction specifiers with
  | nil => exact .nil
  | cons s specifiers ih =>
      have hown (hpiece : ∃ value, ownPiece? module s = some (.constant s.localName value))
          (hproperty : boundProperty? s = none) :
          (((s :: specifiers).filterMap (ownPiece? module)).flatMap Piece.binds ++
            ((s :: specifiers).filterMap boundProperty?).map (·.2)).Perm
              ((s :: specifiers).map Specifier.localName) := by
        obtain ⟨value, hvalue⟩ := hpiece
        rw [List.filterMap_cons_some hvalue, List.filterMap_cons_none hproperty]
        exact ih.cons s.localName
      cases s with
      | standard x => exact hown ⟨_, rfl⟩ rfl
      | whole x => exact hown ⟨_, rfl⟩ rfl
      | named imported x isType =>
          by_cases hdefault : textOf imported.value == "default"
          · exact hown ⟨_, by simp only [ownPiece?, hdefault]; rfl⟩
              (by simp only [boundProperty?, hdefault]; rfl)
          · have hpiece : ownPiece? module (.named imported x isType) = none := by
              simp only [ownPiece?, if_neg hdefault]
            have hproperty : boundProperty? (.named imported x isType) =
                some (textOf imported.value, x) := by
              simp only [boundProperty?, if_neg hdefault]
            rw [List.filterMap_cons_none hpiece, List.filterMap_cons_some hproperty]
            exact List.perm_middle.trans (ih.cons x)

/-- The pieces of an import bind what its specifiers bind, and the constant for the module. -/
theorem perm_importPieces (module : String) (r : Resolution) (specifiers : List Specifier) :
    ((importPieces module r specifiers).flatMap Piece.binds).Perm
      (specifiers.map Specifier.localName ++ [module]) := by
  have hfields (fields : List (String × String)) :
      (if fields.isEmpty then [] else [Piece.fields fields module]).flatMap Piece.binds =
        fields.map (·.2) := by
    cases fields with
    | nil => rfl
    | cons f fields => exact List.append_nil _
  unfold importPieces takingPieces
  rw [List.flatMap_cons, List.flatMap_append, hfields]
  exact ((perm_localName module specifiers).cons module).trans (List.perm_append_singleton module _).symm

/-- **What is written for a statement declares what the statement imports**, and the constant that is made up
for it. -/
theorem perm_constants_emission (resolve : String → Resolution) (made : Nat) (i : Item) :
    (emission resolve made i).constants.Perm
      (i.body.importedNames ++ (emission resolve made i).temporary.toList) := by
  unfold Emission.constants
  rcases form_emission resolve made i with ⟨_, htemporary, hpieces, himported⟩ | ⟨htemporary, hps, himported⟩
  · rw [htemporary, hpieces, himported]
    exact perm_importPieces _ _ _
  · rw [htemporary, himported,
      List.flatMap_eq_nil_iff.mpr fun p hp => Piece.binds_of_declaresNothing (hps p hp)]
    exact .nil

/-! ## Made-up names -/

theorem temporaryName_inj (hp : purpose ∈ purposes) (hp' : purpose' ∈ purposes)
    (h : temporaryName purpose n = temporaryName purpose' m) : n = m := by
  have hname (p : String) (k : Nat) : (temporaryName p k).toList =
      '_' :: '_' :: (p.toList ++ '_' :: k.repr.toList) := by
    have heq : temporaryName p k = "__" ++ p ++ "_" ++ k.repr := rfl
    rw [heq]
    simp only [String.toList_append, List.append_assoc]
    rfl
  have hlist := congrArg String.toList h
  rw [hname, hname] at hlist
  simp only [purposes, List.mem_cons, List.not_mem_nil, or_false] at hp hp'
  -- the purposes differ in their first character
  obtain rfl : purpose = purpose' := by
    rcases hp with rfl | rfl <;> rcases hp' with rfl | rfl
    · rfl
    · exact absurd hlist (by simp)
    · exact absurd hlist (by simp)
    · rfl
  simp only [List.cons.injEq, List.append_cancel_left_eq, true_and, Nat.toList_repr] at hlist
  -- the digits are read back
  simpa using congrArg (fun digits => Nat.ofDigitChars 10 digits 0) hlist

theorem temporary_emission (h : (emission resolve made i).temporary = some x) :
    (emission resolve made i).made = 1 ∧ ∃ purpose ∈ purposes, x = temporaryName purpose made := by
  refine ⟨by rw [Emission.made, h]; rfl, ?_⟩
  rcases form_emission resolve made i with ⟨hpurpose, htemporary, _, _⟩ | ⟨htemporary, _, _⟩
  · exact ⟨_, hpurpose, Option.some.inj (h.symm.trans htemporary)⟩
  · rw [htemporary] at h
    cases h

/-- A made-up name has a number that was not used before. -/
theorem mem_temporariesOf (h : x ∈ temporariesOf (emissions resolve made items)) :
    ∃ purpose ∈ purposes, ∃ n, made ≤ n ∧ n < made + items.length ∧ x = temporaryName purpose n := by
  induction items generalizing made with
  | nil => cases h
  | cons i items ih =>
      obtain ⟨e, he, hx⟩ := List.mem_filterMap.mp h
      rcases List.mem_cons.mp he with rfl | he
      · obtain ⟨_, purpose, hp, hname⟩ := temporary_emission hx
        exact ⟨purpose, hp, made, Nat.le_refl _, by simp, hname⟩
      · obtain ⟨purpose, hp, n, hle, hlt, hname⟩ := ih (List.mem_filterMap.mpr ⟨e, he, hx⟩)
        have hmade : (emission resolve made i).made ≤ 1 := by
          unfold Emission.made
          cases (emission resolve made i).temporary <;> simp
        refine ⟨purpose, hp, n, by omega, ?_, hname⟩
        rw [List.length_cons]
        omega

/-- **The constants that are made up have different names.** -/
theorem nodup_temporariesOf (resolve : String → Resolution) (made : Nat) (items : List Item) :
    (temporariesOf (emissions resolve made items)).Nodup := by
  induction items generalizing made with
  | nil => exact .nil
  | cons i items ih =>
      rw [emissions, temporariesOf]
      cases h : (emission resolve made i).temporary with
      | none =>
          rw [List.filterMap_cons_none h]
          exact ih _
      | some x =>
          rw [List.filterMap_cons_some h]
          refine List.nodup_cons.mpr ⟨fun hmem => ?_, ih _⟩
          obtain ⟨hone, purpose, hp, rfl⟩ := temporary_emission h
          obtain ⟨purpose', hp', n, hle, _, hname⟩ := mem_temporariesOf hmem
          have hn : made = n := temporaryName_inj hp hp' hname
          omega

/-! ## Modules -/

theorem exportsOf_emissions (resolve : String → Resolution) (made : Nat) (items : List Item) :
    exportsOf (emissions resolve made items) =
      (items.flatMap fun i => i.body.exports).map (Export.map resolve) := by
  induction items generalizing made with
  | nil => rfl
  | cons i items ih =>
      have ih := ih (made + (emission resolve made i).made)
      rw [exportsOf] at ih
      rw [emissions, exportsOf, List.flatMap_cons, ih, exports_emission, List.flatMap_cons, List.map_append]

theorem filterMap_name?_exportsOf (resolve : String → Resolution) (made : Nat) (items : List Item) :
    (exportsOf (emissions resolve made items)).filterMap Export.name? =
      (items.flatMap fun i => i.body.exports).filterMap Export.name? := by
  rw [exportsOf_emissions, List.filterMap_map]
  exact congrArg (List.filterMap · _) (funext fun e => Export.name?_map resolve e)

theorem perm_constantsOf (resolve : String → Resolution) (made : Nat) (items : List Item) :
    (constantsOf (emissions resolve made items)).Perm
      ((items.flatMap fun i => i.body.importedNames) ++ temporariesOf (emissions resolve made items)) := by
  induction items generalizing made with
  | nil => exact .nil
  | cons i items ih =>
      have ih := ih (made + (emission resolve made i).made)
      have htemporaries (e : Emission) (es : List Emission) :
          temporariesOf (e :: es) = e.temporary.toList ++ temporariesOf es := by
        unfold temporariesOf
        cases h : e.temporary with
        | none => exact List.filterMap_cons_none h
        | some x => exact List.filterMap_cons_some h
      rw [emissions, constantsOf, List.flatMap_cons, List.flatMap_cons, htemporaries]
      refine ((perm_constants_emission resolve made i).append ih).trans ?_
      -- the constant that is made up for the statement comes after all that is imported
      simp only [List.append_assoc]
      exact (List.perm_append_comm_assoc ..).append_left _

/-- What is written for a module keeps its names. -/
structure KeepsNames (resolve : String → Resolution) (items : List Item) (es : List Emission) : Prop where
  /-- What the module exports is written, each occurrence once and in order. It is made, but for what is named
  `__proto__`. -/
  exports : ∃ exports, Lists (Within items fun i => i.body.ExportsAt) exports ∧
    exportsOf es = exports.map (Export.map resolve) ∧
    ((exportsOf es).filter IsMade = exportsOf es ↔ .name "__proto__" ∉ exports)
  /-- No name is exported twice. -/
  once : ((exportsOf es).filterMap Export.name?).Nodup
  /-- What the module imports is declared, besides what is made up. A name is declared once if it is imported
  once and is not made up as well. -/
  imports : ∃ imported, Lists (Within items fun i => i.body.ImportsAt) imported ∧
    (constantsOf es).Perm (imported ++ temporariesOf es) ∧
    ∀ x ∈ imported, (constantsOf es).count x = 1 ↔ imported.count x = 1 ∧ x ∉ temporariesOf es
  /-- What is made up is new each time. -/
  nodup : (temporariesOf es).Nodup
  temporary : ∀ x ∈ temporariesOf es, ∃ purpose ∈ purposes, ∃ n < items.length, x = temporaryName purpose n

theorem filter_isMade_iff (resolve : String → Resolution) (exports : List (Export String)) :
    (exports.map (Export.map resolve)).filter IsMade = exports.map (Export.map resolve) ↔
      .name "__proto__" ∉ exports := by
  have hmade (e : Export String) : IsMade (e.map resolve) = true ↔ e ≠ .name "__proto__" := by
    cases e <;> simp [IsMade, Export.map, Export.name?]
  rw [List.filter_eq_self]
  simp only [List.forall_mem_map, hmade]
  exact ⟨fun h hmem => h _ hmem rfl, fun h e he heq => h (heq ▸ he)⟩

/-- Something is there once if it is in one list once and not in another one. -/
theorem count_eq_one_iff {xs ys zs : List String} (hperm : zs.Perm (xs ++ ys)) (hx : x ∈ xs) :
    zs.count x = 1 ↔ xs.count x = 1 ∧ x ∉ ys := by
  rw [hperm.count_eq, List.count_append, ← List.count_eq_zero]
  have hpos : 0 < xs.count x := List.count_pos_iff.mpr hx
  omega

/-- **A module that is rewritten keeps its names.** -/
theorem names_kept {path code : String} {s : Script} (resolve : String → Resolution)
    (h : readModule .plain code.toList = .ok s) :
    let es := emissions resolve 0 s.items
    (∃ requests, ModuleBody.ofCode path code resolve = .ok ⟨bodyCode es code, requests⟩) ∧
      KeepsNames resolve s.items es := by
  refine ⟨⟨_, ofCode_eq h⟩, ?_⟩
  have hexports := exportsOf_emissions resolve 0 s.items
  have hperm := perm_constantsOf resolve 0 s.items
  exact {
    exports := ⟨_, lists_flatMap fun i _ => i.body.lists_exports, hexports,
      hexports ▸ filter_isMade_iff resolve _⟩
    once := by
      rw [filterMap_name?_exportsOf]
      exact nodup_exports h
    imports := ⟨_, lists_flatMap fun i _ => i.body.lists_importedNames, hperm,
      fun x hx => count_eq_one_iff hperm hx⟩
    nodup := nodup_temporariesOf resolve 0 s.items
    temporary := fun x hx => by
      obtain ⟨purpose, hp, n, _, hlt, rfl⟩ := mem_temporariesOf hx
      exact ⟨purpose, hp, n, by omega, rfl⟩ }

/-- A module with names in patterns, names that are texts, and a default without a name. -/
def named : String :=
  "import React, \x7b useState as use \x7d from 'react';\n" ++
    "export const \x7b a, b: [c = 1, ...d], ...e \x7d = use();\n" ++
    "export \x7b c as 'f g' \x7d;\n" ++
    "export \x7b h, default as i \x7d from './x';\n" ++
    "export * from './y';\n" ++
    "export default function () \x7b\x7d\n"

/-- Its names are in what is written for it. -/
theorem names_kept_named :
    ∃ s, readModule .plain named.toList = .ok s ∧
      exportsOf (emissions .outside 0 s.items) = [.name "a", .name "c", .name "d", .name "e", .name "f g",
        .name "h", .name "i", .all (.outside "./y"), .name "default"] ∧
      constantsOf (emissions .outside 0 s.items) = ["__import_0", "React", "use", "__reexport_1"] ∧
      (∃ requests, ModuleBody.ofCode "src/a.js" named .outside =
        .ok ⟨bodyCode (emissions .outside 0 s.items) named, requests⟩) ∧
      KeepsNames .outside s.items (emissions .outside 0 s.items) := by
  have hread : (readModule .plain named.toList).toOption.map (fun s =>
      (exportsOf (emissions .outside 0 s.items), constantsOf (emissions .outside 0 s.items))) =
      some ([.name "a", .name "c", .name "d", .name "e", .name "f g", .name "h", .name "i",
          .all (.outside "./y"), .name "default"],
        ["__import_0", "React", "use", "__reexport_1"]) := by decide +kernel
  obtain ⟨s, hs, hpair⟩ := exists_ok_of_map hread
  obtain ⟨hexports, hconstants⟩ := Prod.mk.inj hpair
  obtain ⟨hbody, hkeeps⟩ := names_kept .outside hs
  exact ⟨s, hs, hexports, hconstants, hbody, hkeeps⟩

/-- What is exported as `__proto__` is not made. -/
example : (readModule .plain "export const __proto__ = 1;".toList).toOption.map (fun s =>
    (exportsOf (emissions .outside 0 s.items)).map fun e => (e, IsMade e)) =
      some [(.name "__proto__", false)] := by decide +kernel

/-- **An imported name is lost to a made-up one**: it is imported once, and declared twice. -/
theorem made_up_twice :
    let code := "import __import_0 from 'x';"
    (ModuleBody.ofCode "a.js" code .outside).toOption.map (·.code) =
        some "const __import_0 = __external(\"x\"); const __import_0 = __default(__import_0);" ∧
      ∃ s, readModule .plain code.toList = .ok s ∧
        Lists (Within s.items fun i => i.body.ImportsAt) ["__import_0"] ∧
        (constantsOf (emissions .outside 0 s.items)).count "__import_0" = 2 := by
  intro code
  have hread : (readModule .plain code.toList).toOption.map (fun s =>
      (s.items.flatMap fun i => i.body.importedNames, constantsOf (emissions .outside 0 s.items))) =
      some (["__import_0"], ["__import_0", "__import_0"]) := by decide +kernel
  obtain ⟨s, hs, hpair⟩ := exists_ok_of_map hread
  obtain ⟨himported, hconstants⟩ := Prod.mk.inj hpair
  refine ⟨by decide +kernel, s, hs, ?_, by rw [hconstants]; decide⟩
  rw [← himported]
  exact lists_flatMap fun i _ => i.body.lists_importedNames

end AppMend.Bundle
