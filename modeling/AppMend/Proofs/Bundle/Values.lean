import AppMend.Proofs.Bundle.Running

/-!
# The values of what is exported

A name that comes from another module can be passed on by a re-export, or imported and then exported. The
first has the property of the module for its value. The second has what the name is imported as, and that is
something else for `default`: a module that is not marked as one and has no default stands for its own. So
the two agree on every name but `default`, and on `default` exactly if the module is marked or has one
(`reexport_agrees_iff`).
-/

namespace AppMend

/-! ## Names that come from a source -/

namespace Script

/-- The name in a module that a specifier takes, with the name that it gets. -/
def Specifier.taken? : Specifier → Option (String × String)
  | .standard x => some ("default", x)
  | .named imported x _ => some (textOf imported.value, x)
  | .whole _ => none

namespace Stmt

/-- The names that a statement passes on: each with its source and the name that it gets. -/
def passedOn (s : Stmt) : List (String × String × String) :=
  match s.bare with
  | .exportList names (some source) =>
    names.map fun n => (textOf source.value, textOf n.localName.value, textOf n.exported.value)
  | _ => []

/-- The names that a statement takes from modules: each with its source and the name that it gets. -/
def taken (s : Stmt) : List (String × String × String) :=
  match s.bare with
  | .imports { source, specifiers := some specifiers, .. } =>
    (specifiers.filterMap Specifier.taken?).map fun n => (textOf source.value, n)
  | _ => []

/-- The names of a module that a statement exports, with the names that they get. -/
def given (s : Stmt) : List (String × String) :=
  match s.bare with
  | .exportList names none => names.map fun n => (textOf n.localName.value, textOf n.exported.value)
  | _ => []

end Stmt

end Script

namespace Bundle

open Script

variable {α : Type} {w : World α} {x n l source : String} {v : Option α} {items : List Item} {i : Item}

/-! ## Imported values -/

namespace World

/-- What an object is imported as by a name. -/
def imported (w : World α) (m : α) (n : String) : Option α :=
  if n == "default" then w.standard m else w.property m n

/-- **An import takes the property of its name**, unless it takes a default that there is none of from a
module that is not marked. -/
theorem property_eq_imported_iff (w : World α) (m : α) (n : String) :
    w.property m n = w.imported m n ↔
      (n = "default" → w.isMarked m = true ∨ w.property m "default" ≠ none) := by
  unfold imported
  split
  · rename_i hn
    obtain rfl := eq_of_beq hn
    unfold standard
    cases w.isMarked m <;> cases w.property m "default" <;> simp
  · rename_i hn
    exact iff_of_true rfl fun h => absurd (beq_iff_eq.mpr h) hn

end World

/-! ## Exported values -/

/-- The value that is exported by a name, if the body runs and there is a getter for the name that is known
from imports alone. Of two getters the last one counts, and `__proto__` is none. -/
def exported? (w : World α) (es : List Emission) (x : String) : Option (Option α) :=
  (execAll w (es.flatMap (·.pieces)) .empty).bind fun env =>
    ((es.flatMap (·.getters)).reverse.find? fun g => g.1 == x && x != "__proto__").bind fun g =>
      g.2.value? w env

/-- If names are different, what has one of them is found by it, from behind as well. -/
theorem find?_reverse_of_nodup {β : Type} {xs : List (String × β)} {b : β} (hb : (x, b) ∈ xs)
    (hnodup : (xs.map (·.1)).Nodup) : xs.reverse.find? (fun c => c.1 == x) = some (x, b) := by
  have hfound : (xs.reverse.find? fun c => c.1 == x).isSome = true :=
    List.find?_isSome.mpr ⟨_, List.mem_reverse.mpr hb, beq_self_eq_true x⟩
  obtain ⟨c, hc⟩ := Option.isSome_iff_exists.mp hfound
  have hmem : c ∈ xs := List.mem_reverse.mp (List.mem_of_find?_eq_some hc)
  have hname : (c.1 == x) = true := List.find?_some (p := fun c : String × β => c.1 == x) hc
  rw [hc, List.inj_on_of_nodup_map hnodup hmem hb (eq_of_beq hname)]

/-- If no name is exported twice, no name has two getters. -/
theorem nodup_getters {resolve : String → Resolution}
    (honce : ((items.flatMap fun i => i.body.exports).filterMap Export.name?).Nodup) :
    (((emissions resolve 0 items).flatMap (·.getters)).map (·.1)).Nodup := by
  have hsublist (es : List Emission) :
      ((es.flatMap (·.getters)).map (·.1)).Sublist ((exportsOf es).filterMap Export.name?) := by
    induction es with
    | nil => exact .slnil
    | cons e es ih =>
        have hgetters : (e.getters.map fun g => Export.name g.1).filterMap (@Export.name? Resolution) =
            e.getters.map (·.1) := by
          rw [List.filterMap_map]
          exact congrFun List.filterMap_eq_map e.getters
        rw [List.flatMap_cons, List.map_append, exportsOf, List.flatMap_cons, List.filterMap_append,
          Emission.exports, List.filterMap_append, hgetters]
        exact (List.sublist_append_left _ _).append ih
  refine (hsublist _).nodup ?_
  rw [filterMap_name?_exportsOf]
  exact honce

/-- **A name has the value of its getter.** -/
theorem exported?_of_getter {resolve : String → Resolution} {items : List Item} {value : Operand}
    (hmem : (x, value) ∈ (emissions resolve 0 items).flatMap (·.getters))
    (honce : ((items.flatMap fun i => i.body.exports).filterMap Export.name?).Nodup)
    (hvalue : ∀ env, execAll w ((emissions resolve 0 items).flatMap (·.pieces)) .empty = some env →
      value.value? w env = some v) :
    exported? w (emissions resolve 0 items) x =
      if CanRun (emissions resolve 0 items) ∧ x ≠ "__proto__" then some v else none := by
  have hruns := exists_execAll_iff (isPlain_emissions resolve items) w
  have hfind : ((emissions resolve 0 items).flatMap (·.getters)).reverse.find? (fun g => g.1 == x) =
      some (x, value) :=
    find?_reverse_of_nodup hmem (nodup_getters honce)
  unfold exported?
  cases hrun : execAll w ((emissions resolve 0 items).flatMap (·.pieces)) .empty with
  | none =>
      rw [if_neg fun h => ?_]
      · rfl
      · obtain ⟨env, henv⟩ := hruns.mpr h.1
        rw [hrun] at henv
        cases henv
  | some env =>
      have hcan := hruns.mp ⟨env, hrun⟩
      -- `__proto__` is no getter of the object that it is written in
      by_cases hx : x = "__proto__"
      · have hnone : (fun g : String × Operand => g.1 == x && x != "__proto__") = fun _ => false := by
          simp [hx]
        rw [if_neg fun h => h.2 hx, hnone, List.find?_eq_none.mpr (by simp)]
        rfl
      · have hkey : (x != "__proto__") = true := bne_iff_ne.mpr hx
        simp only [hkey, Bool.and_true, Option.bind_some, hfind]
        rw [if_pos ⟨hcan, hx⟩]
        exact hvalue env hrun

/-! ## Statements -/

/-- What is passed on is read from the module when it is asked for. -/
theorem exists_getter_of_mem_passedOn (h : (source, n, x) ∈ i.body.passedOn) (resolve : String → Resolution)
    (made : Nat) (w : World α) :
    ∃ module, (x, .property module n) ∈ (emission resolve made i).getters ∧
      (module, some (w.given (resolve source))) ∈ (emission resolve made i).bindings w := by
  unfold Stmt.passedOn at h
  split at h
  · rename_i names s hbare
    obtain ⟨e, he, heq⟩ := List.mem_map.mp h
    cases heq
    refine ⟨temporaryName "reexport" made, ?_, ?_⟩
    · simp only [emission, hbare]
      exact List.mem_map.mpr ⟨e, he, rfl⟩
    · simp only [emission, hbare]
      exact List.mem_cons_self
  · cases h

/-- A specifier that takes a name makes a constant of its value. -/
theorem mem_taken_of_mem {specifiers : List Specifier} {b : Specifier} (hb : b ∈ specifiers)
    (hn : b.taken? = some (n, l)) (module : String) (w : World α) (m : α) :
    (l, w.imported m n) ∈ (takingPieces module specifiers).flatMap fun p => p.taken w m := by
  have hown (hpiece : ownPiece? module b = some (.constant l (.standard module))) (hdefault : n = "default") :
      (l, w.imported m n) ∈ (specifiers.filterMap (ownPiece? module)).flatMap fun p => p.taken w m := by
    refine List.mem_flatMap.mpr ⟨_, List.mem_filterMap.mpr ⟨b, hb, hpiece⟩, ?_⟩
    rw [hdefault]
    exact List.mem_singleton.mpr rfl
  unfold takingPieces
  rw [List.flatMap_append]
  cases b with
  | whole x => cases hn
  | standard x =>
      cases hn
      exact List.mem_append_left _ (hown rfl rfl)
  | named imported x isType =>
      cases hn
      by_cases hdefault : textOf imported.value == "default"
      · refine List.mem_append_left _ (hown ?_ (eq_of_beq hdefault))
        simp only [ownPiece?, if_pos hdefault]
      · have hfield : (textOf imported.value, l) ∈ specifiers.filterMap boundProperty? :=
          List.mem_filterMap.mpr ⟨_, hb, by simp only [boundProperty?, if_neg hdefault]⟩
        have hsome : ¬(specifiers.filterMap boundProperty?).isEmpty = true := by
          rw [List.isEmpty_iff]
          exact List.ne_nil_of_mem hfield
        have himported : w.imported m (textOf imported.value) = w.property m (textOf imported.value) :=
          if_neg hdefault
        rw [if_neg hsome, himported]
        exact List.mem_append_right _ (List.mem_flatMap.mpr
          ⟨_, List.mem_singleton_self _, List.mem_map.mpr ⟨_, hfield, rfl⟩⟩)

/-- An import declares the values of what it takes. -/
theorem mem_bindings_of_mem_taken (h : (source, n, l) ∈ i.body.taken) (resolve : String → Resolution)
    (made : Nat) (w : World α) :
    (l, w.imported (w.given (resolve source)) n) ∈ (emission resolve made i).bindings w := by
  unfold Stmt.taken at h
  split at h
  · rename_i stage s isType specifiers hbare
    obtain ⟨e, he, heq⟩ := List.mem_map.mp h
    obtain ⟨b, hb, htaken⟩ := List.mem_filterMap.mp he
    cases heq
    simp only [emission, hbare, Emission.bindings, Emission.pieces, List.flatMap_cons, List.flatMap_nil,
      List.append_nil, importPieces]
    exact List.mem_cons_of_mem _ (mem_taken_of_mem hb htaken _ w _)
  · cases h

theorem mem_getters_of_mem_given (h : (l, x) ∈ i.body.given) (resolve : String → Resolution) (made : Nat) :
    (x, .name l) ∈ (emission resolve made i).getters := by
  unfold Stmt.given at h
  split at h
  · rename_i names hbare
    obtain ⟨e, he, heq⟩ := List.mem_map.mp h
    cases heq
    simp only [emission, hbare]
    exact List.mem_map.mpr ⟨e, he, rfl⟩
  · cases h

/-- **A name that is passed on has the value of the property.** -/
theorem exported?_passedOn (h : (source, n, x) ∈ items.flatMap fun i => i.body.passedOn)
    (honce : ((items.flatMap fun i => i.body.exports).filterMap Export.name?).Nodup) (resolve : String → Resolution)
    (w : World α) :
    exported? w (emissions resolve 0 items) x =
      if CanRun (emissions resolve 0 items) ∧ x ≠ "__proto__" then
        some (w.property (w.given (resolve source)) n) else none := by
  obtain ⟨i, hi, hn⟩ := List.mem_flatMap.mp h
  obtain ⟨made, he⟩ := exists_mem_emissions hi resolve 0
  obtain ⟨module, hgetter, hbinding⟩ := exists_getter_of_mem_passedOn hn resolve made w
  refine exported?_of_getter (List.mem_flatMap.mpr ⟨_, he, hgetter⟩) honce fun env henv => ?_
  -- the getter looks into the module when all constants are there
  have hmodule := value_of_mem_bindings (isPlain_emissions resolve items) henv he hbinding
  simp only [Operand.value?, hmodule, Option.bind_some, Option.map_some]

/-- **A name that is imported and then exported has the value that it is imported as.** -/
theorem exported?_given (h : (source, n, l) ∈ items.flatMap fun i => i.body.taken)
    (hx : (l, x) ∈ items.flatMap fun i => i.body.given)
    (honce : ((items.flatMap fun i => i.body.exports).filterMap Export.name?).Nodup) (resolve : String → Resolution)
    (w : World α) :
    exported? w (emissions resolve 0 items) x =
      if CanRun (emissions resolve 0 items) ∧ x ≠ "__proto__" then
        some (w.imported (w.given (resolve source)) n) else none := by
  obtain ⟨i, hi, hn⟩ := List.mem_flatMap.mp h
  obtain ⟨j, hj, hl⟩ := List.mem_flatMap.mp hx
  obtain ⟨made, he⟩ := exists_mem_emissions hi resolve 0
  obtain ⟨made', he'⟩ := exists_mem_emissions hj resolve 0
  refine exported?_of_getter (List.mem_flatMap.mpr ⟨_, he', mem_getters_of_mem_given hl resolve made'⟩) honce
    fun env henv => ?_
  exact value_of_mem_bindings (isPlain_emissions resolve items) henv he (mem_bindings_of_mem_taken hn resolve made w)

/-- A re-export alone can always run. -/
theorem canRun_reexport {names : List ExportName} {from? : Source} (resolve : String → Resolution)
    (hi : i.body.bare = .exportList names (some from?)) : CanRun (emissions resolve 0 [i]) := by
  unfold emissions emissions emission
  rw [hi]
  exact ⟨List.pairwise_singleton _ _, rfl⟩

/-- An import that is then exported can run if the name is not the made-up one and the key can be read. -/
theorem canRun_import_iff {j : Item} {clause : Import} {imported : ModuleName} {isType : Bool}
    {names : List ExportName} (resolve : String → Resolution) (hi : i.body.bare = .imports clause)
    (hspecifiers : clause.specifiers = some [.named imported l isType])
    (hj : j.body.bare = .exportList names none) :
    CanRun (emissions resolve 0 [i, j]) ↔ l ≠ "__import_0" ∧
      (textOf imported.value ≠ "default" → isReadable (textOf imported.value, l) = true) := by
  have hpieces : (emissions resolve 0 [i, j]).flatMap (·.pieces) =
      importPieces "__import_0" (resolve (textOf clause.source.value)) [.named imported l isType] := by
    simp only [emissions, emission, hi, hspecifiers, hj, Emission.pieces, List.flatMap_cons,
      List.flatMap_nil, List.append_nil]
    rfl
  have hconstants : constantsOf (emissions resolve 0 [i, j]) =
      ((emissions resolve 0 [i, j]).flatMap (·.pieces)).flatMap Piece.binds := List.flatMap_assoc.symm
  have hnodup : ["__import_0", l].Nodup ↔ l ≠ "__import_0" := by simp [eq_comm]
  rw [CanRun, hconstants, hpieces, importPieces, takingPieces]
  by_cases hdefault : textOf imported.value = "default"
  · have hown : [Specifier.named imported l isType].filterMap (ownPiece? "__import_0") =
        [.constant l (.standard "__import_0")] := by simp [ownPiece?, hdefault]
    have hfields : [Specifier.named imported l isType].filterMap boundProperty? = [] := by
      simp [boundProperty?, hdefault]
    rw [hown, hfields]
    exact (and_iff_left rfl).trans (hnodup.trans (and_iff_left fun h => absurd hdefault h).symm)
  · have hown : [Specifier.named imported l isType].filterMap (ownPiece? "__import_0") = [] := by
      simp [ownPiece?, hdefault]
    have hfields : [Specifier.named imported l isType].filterMap boundProperty? =
        [(textOf imported.value, l)] := by simp [boundProperty?, hdefault]
    rw [hown, hfields]
    refine and_congr hnodup ?_
    simp [Piece.isReadable, hdefault]

/-- A number in superscript is left in a key, and there it is no part of an identifier. -/
example : isReadable ("a²", "l") = false := by decide +kernel

/-- **A re-export agrees with an import that is then exported**, where both can run, but for a default that a
module that is not marked does not have. -/
theorem reexport_agrees_iff {path path' code code' : String} {s s' : Script} (w : World α)
    (resolve : String → Resolution)
    (hs : readModule .plain code.toList = .ok s) (hs' : readModule .plain code'.toList = .ok s')
    (hpassed : (source, n, x) ∈ s.items.flatMap fun i => i.body.passedOn)
    (htaken : (source, n, l) ∈ s'.items.flatMap fun i => i.body.taken)
    (hgiven : (l, x) ∈ s'.items.flatMap fun i => i.body.given) :
    let es := emissions resolve 0 s.items
    let es' := emissions resolve 0 s'.items
    let m := w.given (resolve source)
    (∃ requests, ModuleBody.ofCode path code resolve = .ok ⟨bodyCode es code, requests⟩) ∧
      (∃ requests, ModuleBody.ofCode path' code' resolve = .ok ⟨bodyCode es' code', requests⟩) ∧
      exported? w es x = (if CanRun es ∧ x ≠ "__proto__" then some (w.property m n) else none) ∧
      exported? w es' x = (if CanRun es' ∧ x ≠ "__proto__" then some (w.imported m n) else none) ∧
      (CanRun es → CanRun es' → x ≠ "__proto__" → (exported? w es x = exported? w es' x ↔
        (n = "default" → w.isMarked m = true ∨ w.property m "default" ≠ none))) := by
  have hvalue := exported?_passedOn hpassed (nodup_exports hs) resolve w
  have hvalue' := exported?_given htaken hgiven (nodup_exports hs') resolve w
  refine ⟨⟨_, ofCode_eq hs⟩, ⟨_, ofCode_eq hs'⟩, hvalue, hvalue', fun hcan hcan' hx => ?_⟩
  rw [hvalue, hvalue', if_pos ⟨hcan, hx⟩, if_pos ⟨hcan', hx⟩, Option.some_inj]
  exact w.property_eq_imported_iff _ n

/-- A host that gives one module for every request. -/
def hosted (isMarked : Bool) (default? : Option String) : World String where
  given _ := "module"
  isMarked _ := isMarked
  property _ key := if key = "default" then default? else none

/-- A default that a marked module has is the same by both ways. -/
theorem reexport_agrees_marked :
    ∃ s s', readModule .plain "export \x7b default as x \x7d from 'react';".toList = .ok s ∧
      readModule .plain "import \x7b default as l \x7d from 'react'; export \x7b l as x \x7d;".toList = .ok s' ∧
      CanRun (emissions .outside 0 s.items) ∧ CanRun (emissions .outside 0 s'.items) ∧
      exported? (hosted true (some "f")) (emissions .outside 0 s.items) "x" =
        exported? (hosted true (some "f")) (emissions .outside 0 s'.items) "x" := by
  have hread : (readModule .plain "export \x7b default as x \x7d from 'react';".toList).toOption.map (fun s =>
      (s.items.flatMap (fun i => i.body.passedOn), decide (CanRun (emissions .outside 0 s.items)))) =
      some ([("react", "default", "x")], true) := by decide +kernel
  have hread' : (readModule .plain
      "import \x7b default as l \x7d from 'react'; export \x7b l as x \x7d;".toList).toOption.map (fun s =>
      (s.items.flatMap (fun i => i.body.taken), s.items.flatMap (fun i => i.body.given),
        decide (CanRun (emissions .outside 0 s.items)))) =
      some ([("react", "default", "l")], [("l", "x")], true) := by decide +kernel
  obtain ⟨s, hs, hall⟩ := exists_ok_of_map hread
  obtain ⟨s', hs', hall'⟩ := exists_ok_of_map hread'
  simp only [Prod.mk.injEq, decide_eq_true_eq] at hall hall'
  obtain ⟨hpassed, hcan⟩ := hall
  obtain ⟨htaken, hgiven, hcan'⟩ := hall'
  have hagrees := @reexport_agrees_iff String "x" "default" "l" "react" "a.js" "b.js" _ _ s s'
    (hosted true (some "f")) .outside hs hs' (by rw [hpassed]; decide) (by rw [htaken]; decide)
    (by rw [hgiven]; decide)
  exact ⟨s, s', hs, hs', hcan, hcan', (hagrees.2.2.2.2 hcan hcan' (by decide)).mpr fun _ => .inl rfl⟩

/-- **A default that is passed on is lost**: a module that is not marked and has no default stands for its own
default if it is imported, but not if it is passed on. -/
theorem default_lost :
    (ModuleBody.ofCode "a.js" "export \x7b default as x \x7d from 'react';" .outside).toOption.map (·.code) =
        some ("__export(exports, \x7b \"x\": () => __reexport_0[\"default\"] \x7d);\n" ++
          "const __reexport_0 = __external(\"react\");") ∧
      (readModule .plain "export \x7b default as x \x7d from 'react';".toList).toOption.map (fun s =>
        exported? (hosted false none) (emissions .outside 0 s.items) "x") = some (some none) ∧
      (readModule .plain
          "import \x7b default as l \x7d from 'react'; export \x7b l as x \x7d;".toList).toOption.map (fun s =>
        exported? (hosted false none) (emissions .outside 0 s.items) "x") = some (some (some "module")) := by
  decide +kernel

end Bundle

end AppMend
