import Mathlib.Data.List.Nodup
import AppMend.Script.Module

/-!
# Names and the places where they stand

A place in a module is told by the positions that lead to it from the outside in, and of two places the one
that stands first in the text is the smaller one. So what a module exports and what it imports can be said
one occurrence at a time (`Script.ExportsAt`, `Script.ImportsAt`), whatever patterns a name is nested in, and
`Lists` says that a list has all of it, each occurrence once and in the order of the text.

The names that a pattern or a declaration is said to bind are of that kind (`Pattern.lists_names`,
`Stmt.lists_declaredNames`). A module that is read in plain form exports no name twice (`nodup_exports`).
-/

namespace AppMend.Script

/-! ## Things by their places -/

/-- Whether a list has the things that stand at places, each of them once and in the order of the places. -/
def Lists {α : Type} (At : List Nat → α → Prop) (xs : List α) : Prop :=
  ∃ placed : List (List Nat × α), (placed.Pairwise fun a b => a.1 < b.1) ∧
    (∀ place x, (place, x) ∈ placed ↔ At place x) ∧ placed.map (·.2) = xs

/-- What stands in one of several parts: first comes the position of the part. -/
inductive Within {α β : Type} (parts : List β) (At : β → List Nat → α → Prop) : List Nat → α → Prop where
  | mk {i : Nat} {b : β} {place : List Nat} {x : α} : parts[i]? = some b → At b place x →
      Within parts At (i :: place) x

section

variable {α β : Type} {At At' : List Nat → α → Prop} {xs ys : List α} {a : α} {parts : List β} {b : β}
  {PartAt : β → List Nat → α → Prop}

theorem Lists.congr (h : Lists At xs) (hat : ∀ place x, At' place x ↔ At place x) : Lists At' xs := by
  obtain ⟨placed, hasc, hmem, hxs⟩ := h
  exact ⟨placed, hasc, fun place x => (hmem place x).trans (hat place x).symm, hxs⟩

theorem lists_nil (h : ∀ place x, ¬At place x) : Lists At [] :=
  ⟨[], .nil, fun place x => by simp [h place x], rfl⟩

theorem lists_singleton (h : ∀ place x, At place x ↔ place = [] ∧ x = a) : Lists At [a] :=
  ⟨[([], a)], List.pairwise_singleton _ _, fun place x => by simp [h place x], rfl⟩

/-- What is made of each thing stands at its place. -/
theorem Lists.map {γ : Type} {f : α → γ} (h : Lists At xs) :
    Lists (fun place y => ∃ x, At place x ∧ y = f x) (xs.map f) := by
  obtain ⟨placed, hasc, hmem, rfl⟩ := h
  refine ⟨placed.map fun e => (e.1, f e.2), List.pairwise_map.mpr hasc, fun place y => ?_, by simp⟩
  simp only [List.mem_map, Prod.mk.injEq, Prod.exists]
  constructor
  · rintro ⟨place, x, hx, rfl, rfl⟩
    exact ⟨x, (hmem place x).mp hx, rfl⟩
  · rintro ⟨x, hx, rfl⟩
    exact ⟨place, x, (hmem place x).mpr hx, rfl, rfl⟩

/-- The same place in the next part. -/
def onward : List Nat → List Nat
  | [] => []
  | i :: rest => (i + 1) :: rest

theorem within_cons_iff {place : List Nat} {x : α} : Within (b :: parts) PartAt place x ↔
    (∃ rest, 0 :: rest = place ∧ PartAt b rest x) ∨
      ∃ rest, onward rest = place ∧ Within parts PartAt rest x := by
  constructor
  · rintro ⟨hi, hx⟩
    rename_i i c place
    cases i with
    | zero =>
        obtain rfl : b = c := Option.some.inj hi
        exact .inl ⟨place, rfl, hx⟩
    | succ i => exact .inr ⟨i :: place, rfl, .mk hi hx⟩
  · rintro (⟨rest, rfl, hx⟩ | ⟨_, rfl, ⟨hi, hx⟩⟩)
    · exact .mk rfl hx
    · exact .mk (by simpa using hi) hx

/-- One part more, in front of the others. -/
theorem Lists.cons (hb : Lists (PartAt b) xs) (h : Lists (Within parts PartAt) ys) :
    Lists (Within (b :: parts) PartAt) (xs ++ ys) := by
  obtain ⟨first, hfirst, hmem, rfl⟩ := hb
  obtain ⟨others, hothers, hmem', rfl⟩ := h
  have hcons : ∀ e ∈ others, ∃ i rest, e.1 = i :: rest := by
    rintro ⟨place, x⟩ he
    obtain ⟨_, _⟩ := (hmem' place x).mp he
    exact ⟨_, _, rfl⟩
  refine ⟨first.map (fun e => (0 :: e.1, e.2)) ++ others.map (fun e => (onward e.1, e.2)), ?_, ?_, ?_⟩
  -- in order: the places of the part begin with 0, and those of the others with more
  · refine List.pairwise_append.mpr ⟨?_, ?_, ?_⟩
    · exact List.pairwise_map.mpr (hfirst.imp fun hlt => List.cons_lt_cons_iff.mpr (.inr ⟨rfl, hlt⟩))
    · refine List.pairwise_map.mpr (hothers.imp_of_mem fun {e f} he hf hlt => ?_)
      obtain ⟨i, rest, hi⟩ := hcons e he
      obtain ⟨j, rest', hj⟩ := hcons f hf
      rw [hi, hj] at hlt ⊢
      exact List.cons_lt_cons_iff.mpr ((List.cons_lt_cons_iff.mp hlt).imp Nat.succ_lt_succ
        fun h => ⟨congrArg Nat.succ h.1, h.2⟩)
    · intro e he f hf
      obtain ⟨_, _, rfl⟩ := List.mem_map.mp he
      obtain ⟨g, hg, rfl⟩ := List.mem_map.mp hf
      obtain ⟨i, rest, hi⟩ := hcons g hg
      rw [hi]
      exact List.cons_lt_cons_iff.mpr (.inl (Nat.succ_pos i))
  · intro place x
    rw [within_cons_iff, List.mem_append, List.mem_map, List.mem_map]
    simp only [Prod.exists, Prod.mk.injEq, hmem, hmem']
    refine or_congr ⟨?_, ?_⟩ ⟨?_, ?_⟩
    · rintro ⟨rest, y, hy, rfl, rfl⟩
      exact ⟨rest, rfl, hy⟩
    · rintro ⟨rest, rfl, hx⟩
      exact ⟨rest, x, hx, rfl, rfl⟩
    · rintro ⟨rest, y, hy, rfl, rfl⟩
      exact ⟨rest, rfl, hy⟩
    · rintro ⟨rest, rfl, hx⟩
      exact ⟨rest, x, hx, rfl, rfl⟩
  · rw [List.map_append, List.map_map, List.map_map]
    rfl

theorem lists_flatMap {f : β → List α} (h : ∀ b ∈ parts, Lists (PartAt b) (f b)) :
    Lists (Within parts PartAt) (parts.flatMap f) := by
  induction parts with
  | nil => exact lists_nil fun _ _ ⟨hi, _⟩ => by simp at hi
  | cons b parts ih =>
      exact (h b List.mem_cons_self).cons (ih fun c hc => h c (List.mem_cons_of_mem _ hc))

end

/-! ## What patterns and declarations bind -/

/-- A pattern binds a name at a place. -/
inductive Pattern.BindsAt : Pattern → List Nat → String → Prop where
  | name (x : String) : BindsAt (.name x) [] x
  | rest {p : Pattern} {place : List Nat} {x : String} : BindsAt p place x → BindsAt (.rest p) place x
  | withDefault {p : Pattern} {e : Expr} {place : List Nat} {x : String} :
      BindsAt p place x → BindsAt (.withDefault p e) place x
  | field {key : Expr} {p : Pattern} {short : Bool} {place : List Nat} {x : String} :
      BindsAt p place x → BindsAt (.field key p short) place x
  | decorated {ds : List Expr} {p : Pattern} {place : List Nat} {x : String} :
      BindsAt p place x → BindsAt (.decorated ds p) place x
  | property {p : Pattern} {place : List Nat} {x : String} :
      BindsAt p place x → BindsAt (.property p) place x
  | array {items : List Pattern} {i : Nat} {p : Pattern} {place : List Nat} {x : String} :
      items[i]? = some p → BindsAt p place x → BindsAt (.array items) (i :: place) x
  | object {binds : Bool} {fields : List Pattern} {i : Nat} {p : Pattern} {place : List Nat}
      {x : String} :
      fields[i]? = some p → BindsAt p place x → BindsAt (.object binds fields) (i :: place) x

theorem Pattern.namesOf_eq (ps : List Pattern) : namesOf ps = ps.flatMap names := by
  induction ps with
  | nil => rfl
  | cons p ps ih => rw [namesOf, ih, List.flatMap_cons]

mutual

/-- **The names of a pattern are what it binds**, each occurrence once and in order. -/
theorem Pattern.lists_names : (p : Pattern) → Lists p.BindsAt p.names
  | .name x => lists_singleton fun place y => by
      constructor
      · rintro ⟨⟩
        exact ⟨rfl, rfl⟩
      · rintro ⟨rfl, rfl⟩
        exact .name y
  | .rest p => (lists_names p).congr fun _ _ => ⟨fun | .rest h => h, .rest⟩
  | .withDefault p _ => (lists_names p).congr fun _ _ => ⟨fun | .withDefault h => h, .withDefault⟩
  | .field _ p _ => (lists_names p).congr fun _ _ => ⟨fun | .field h => h, .field⟩
  | .decorated _ p => (lists_names p).congr fun _ _ => ⟨fun | .decorated h => h, .decorated⟩
  | .property p => (lists_names p).congr fun _ _ => ⟨fun | .property h => h, .property⟩
  | .array items => by
      have h := lists_flatMap (lists_namesOf items)
      rw [← namesOf_eq] at h
      exact h.congr fun _ _ => ⟨fun | .array hi h => .mk hi h, fun | .mk hi h => .array hi h⟩
  | .object _ fields => by
      have h := lists_flatMap (lists_namesOf fields)
      rw [← namesOf_eq] at h
      exact h.congr fun _ _ => ⟨fun | .object hi h => .mk hi h, fun | .mk hi h => .object hi h⟩
  | .target _ => lists_nil fun _ _ h => nomatch h
  | .hole => lists_nil fun _ _ h => nomatch h

theorem Pattern.lists_namesOf : (ps : List Pattern) → ∀ p ∈ ps, Lists p.BindsAt p.names
  | [], _, h => nomatch h
  | p :: ps, q, h => by
      rcases List.mem_cons.mp h with h | h
      · rw [h]
        exact lists_names p
      · exact lists_namesOf ps q h

end

namespace Stmt

/-- A declaration declares a name at a place. -/
inductive DeclaresAt : Stmt → List Nat → String → Prop where
  | vars {kind : VarKind} {ps : List Pattern} {i : Nat} {p : Pattern} {place : List Nat} {x : String} :
      ps[i]? = some p → p.BindsAt place x → DeclaresAt (.vars kind ps) (i :: place) x
  | function {f : Function} {x : String} : f.name? = some x → DeclaresAt (.function f) [] x
  | class {c : Class} {x : String} : c.name? = some x → DeclaresAt (.class c) [] x
  | placed {start : Nat} {d : Stmt} {place : List Nat} {x : String} :
      DeclaresAt d place x → DeclaresAt (.placed start d) place x

theorem lists_toList {At : List Nat → String → Prop} {name : Option String}
    (h : ∀ place x, At place x ↔ place = [] ∧ name = some x) : Lists At name.toList := by
  cases name with
  | none => exact lists_nil fun place x hx => nomatch ((h place x).mp hx).2
  | some y =>
      exact lists_singleton fun place x => (h place x).trans (and_congr_right fun _ => by simp [eq_comm])

/-- **The names of a declaration are what it declares**, each occurrence once and in order. -/
theorem lists_declaredNames (d : Stmt) : Lists d.DeclaresAt d.declaredNames := by
  fun_induction declaredNames d with
  | case1 kind ps =>
      have h := lists_flatMap (Pattern.lists_namesOf ps)
      rw [← Pattern.namesOf_eq] at h
      exact h.congr fun _ _ => ⟨fun | .vars hi h => .mk hi h, fun | .mk hi h => .vars hi h⟩
  | case2 f =>
      exact lists_toList fun _ _ => ⟨fun | .function h => ⟨rfl, h⟩, fun ⟨hp, h⟩ => hp ▸ .function h⟩
  | case3 c =>
      exact lists_toList fun _ _ => ⟨fun | .class h => ⟨rfl, h⟩, fun ⟨hp, h⟩ => hp ▸ .class h⟩
  | case4 start d ih => exact ih.congr fun _ _ => ⟨fun | .placed h => h, .placed⟩
  | case5 d hvars hfunction hclass hplaced =>
      refine lists_nil fun place x h => ?_
      cases h with
      | vars => exact hvars _ _ rfl
      | function => exact hfunction _ rfl
      | «class» => exact hclass _ rfl
      | placed => exact hplaced _ _ rfl

end Stmt

/-! ## What modules export and import -/

/-- What a module exports: a name, or all that comes from a source. -/
inductive Export (σ : Type) where
  | name (x : String)
  | all (source : σ)
deriving DecidableEq

/-- The same export, from what its source stands for. -/
def Export.map {σ τ : Type} (f : σ → τ) : Export σ → Export τ
  | name x => .name x
  | all source => .all (f source)

/-- The name of an export, if it has one. -/
def Export.name? {σ : Type} : Export σ → Option String
  | name x => some x
  | all _ => none

theorem Export.name?_map {σ τ : Type} (f : σ → τ) (e : Export σ) : (e.map f).name? = e.name? := by
  cases e <;> rfl

/-- The name that a specifier gives to what it imports. -/
def Specifier.localName : Specifier → String
  | .standard x | .whole x | .named _ x _ => x

namespace Stmt

/-- A statement of a module exports something at a place. -/
inductive ExportsAt (s : Stmt) : List Nat → Export String → Prop where
  | declared {d : Stmt} {place : List Nat} {x : String} : s.bare = .exportDeclaration d →
      d.DeclaresAt place x → ExportsAt s place (.name x)
  | listed {names : List ExportName} {source : Option Source} {i : Nat} {n : ExportName} :
      s.bare = .exportList names source → names[i]? = some n →
      ExportsAt s [i] (.name (textOf n.exported.value))
  | renamed {x : ModuleName} {source : Source} : s.bare = .exportAll (some x) source →
      ExportsAt s [] (.name (textOf x.value))
  | all {source : Source} : s.bare = .exportAll none source →
      ExportsAt s [] (.all (textOf source.value))
  | standard {e : Expr} : s.bare = .exportDefault e → ExportsAt s [] (.name "default")
  | standardFunction {f : Function} : s.bare = .exportDefaultFunction f →
      ExportsAt s [] (.name "default")
  | standardClass {c : Class} : s.bare = .exportDefaultClass c → ExportsAt s [] (.name "default")

/-- A statement of a module binds a name by an import at a place. -/
inductive ImportsAt (s : Stmt) : List Nat → String → Prop where
  | mk {clause : Import} {specifiers : List Specifier} {i : Nat} {b : Specifier} :
      s.bare = .imports clause → clause.specifiers = some specifiers → specifiers[i]? = some b →
      ImportsAt s [i] b.localName

/-- What a statement exports, in order. -/
def exports (s : Stmt) : List (Export String) :=
  match s.bare with
  | .exportDeclaration d => d.declaredNames.map .name
  | .exportList names _ => names.map fun n => .name (textOf n.exported.value)
  | .exportAll (some x) _ => [.name (textOf x.value)]
  | .exportAll none source => [.all (textOf source.value)]
  | .exportDefault _ | .exportDefaultFunction _ | .exportDefaultClass _ => [.name "default"]
  | _ => []

/-- The names that a statement imports, in order. -/
def importedNames (s : Stmt) : List String :=
  match s.bare with
  | .imports { specifiers := some specifiers, .. } => specifiers.map Specifier.localName
  | _ => []

/-- A list of parts has one thing of each part. -/
theorem lists_map {α β : Type} {At : List Nat → α → Prop} {parts : List β} {f : β → α}
    (h : ∀ place x, At place x ↔ ∃ (i : Nat) (b : β), place = [i] ∧ parts[i]? = some b ∧ x = f b) :
    Lists At (parts.map f) := by
  have hparts : Lists (Within parts fun b place x => place = [] ∧ x = f b) (parts.flatMap fun b => [f b]) :=
    lists_flatMap fun b _ => lists_singleton fun _ _ => Iff.rfl
  rw [← List.map_eq_flatMap] at hparts
  refine hparts.congr fun place x => (h place x).trans ⟨?_, ?_⟩
  · rintro ⟨i, b, rfl, hi, rfl⟩
    exact .mk hi ⟨rfl, rfl⟩
  · rintro ⟨hi, rfl, rfl⟩
    exact ⟨_, _, rfl, hi, rfl⟩

/-- A statement that exports one thing. -/
theorem lists_only {s : Stmt} {e : Export String} (h : s.ExportsAt [] e)
    (honly : ∀ place e', s.ExportsAt place e' → place = [] ∧ e' = e) : Lists s.ExportsAt [e] :=
  lists_singleton fun place e' => ⟨honly place e', fun ⟨hp, he⟩ => hp ▸ he ▸ h⟩

/-- **What a statement is said to export is what it exports**, each occurrence once and in order. -/
theorem lists_exports (s : Stmt) : Lists s.ExportsAt s.exports := by
  unfold exports
  cases hs : s.bare with
  | exportDeclaration d =>
      refine (lists_declaredNames d).map.congr fun place e => ⟨?_, ?_⟩
      · intro h
        cases h <;> simp_all
      · rintro ⟨x, hx, rfl⟩
        exact .declared hs hx
  | exportList names source =>
      refine lists_map fun place e => ⟨?_, ?_⟩
      · intro h
        cases h <;> simp_all
      · rintro ⟨i, n, rfl, hi, rfl⟩
        exact .listed hs hi
  | exportAll rename source =>
      cases rename with
      | none => exact lists_only (.all hs) fun place e h => by cases h <;> simp_all
      | some x => exact lists_only (.renamed hs) fun place e h => by cases h <;> simp_all
  | exportDefault e => exact lists_only (.standard hs) fun place e h => by cases h <;> simp_all
  | exportDefaultFunction f =>
      exact lists_only (.standardFunction hs) fun place e h => by cases h <;> simp_all
  | exportDefaultClass c =>
      exact lists_only (.standardClass hs) fun place e h => by cases h <;> simp_all
  | _ => exact lists_nil fun place e h => by cases h <;> simp_all

/-- **The names that a statement is said to import are what it imports**, each occurrence once and in
order. -/
theorem lists_importedNames (s : Stmt) : Lists s.ImportsAt s.importedNames := by
  unfold importedNames
  cases hs : s.bare with
  | imports clause =>
      obtain ⟨stage, specifiers, source, isType⟩ := clause
      cases specifiers with
      | none => exact lists_nil fun place x h => by cases h; simp_all
      | some specifiers =>
          refine lists_map fun place x => ⟨?_, ?_⟩
          · rintro ⟨hb, hspecifiers, hi⟩
            obtain rfl := Stmt.imports.inj (hs.symm.trans hb)
            obtain rfl := Option.some.inj hspecifiers
            exact ⟨_, _, rfl, hi, rfl⟩
          · rintro ⟨i, b, rfl, hi, rfl⟩
            exact .mk hs rfl hi
  | _ => exact lists_nil fun place x h => by cases h; simp_all

end Stmt

/-! ## Names that are exported once -/

theorem hasRepeats_eq_false_iff (xs : List (List Nat)) : hasRepeats xs = false ↔ xs.Nodup := by
  induction xs with
  | nil => simp [hasRepeats]
  | cons x xs ih => simp [hasRepeats, ih]

theorem textOf_pointsOf (x : String) : textOf (pointsOf x) = x := by
  have hchar (c : Char) :
      (if 0xD800 ≤ c.toNat ∧ c.toNat ≤ 0xDFFF then '\ufffd' else Char.ofNat c.toNat) = c := by
    have hvalid : c.toNat < 0xD800 ∨ 0xDFFF < c.toNat ∧ c.toNat < 0x110000 := c.valid
    rw [if_neg (by omega), Char.ofNat_toNat]
  have hmap : (x.toList.map (·.toNat)).map
      (fun n => if 0xD800 ≤ n ∧ n ≤ 0xDFFF then '\ufffd' else Char.ofNat n) = x.toList := by
    rw [List.map_map]
    exact (List.map_congr_left fun c _ => hchar c).trans (List.map_id' _)
  rw [textOf, pointsOf, hmap, String.ofList_toList]

/-- What is read of a module in plain form: its names are texts, and none is exported twice. -/
theorem names_of_readModule {text : List Char} {s : Script} (h : readModule .plain text = .ok s) :
    (∀ x ∈ s.items.flatMap fun i => i.body.moduleNames, x.isText = true) ∧
      (s.items.flatMap fun i => i.body.exportedNames).Nodup := by
  unfold readModule at h
  cases hread : read .plain text with
  | error e =>
      rw [hread] at h
      cases h
  | ok t =>
      simp only [hread, bind, Except.bind] at h
      split at h
      · cases h
      · rename_i htexts
        split at h
        · cases h
        · rename_i hrepeats
          obtain rfl := Except.ok.inj h
          refine ⟨fun x hx => ?_, (hasRepeats_eq_false_iff _).mp ?_⟩
          · have hx := List.any_eq_false.mp (Bool.eq_false_iff.mpr htexts) x hx
            simpa using hx
          · simpa [Dialect.plain] using hrepeats

/-- The names of exports are the texts of what is told apart when a module is read. -/
theorem Stmt.filterMap_name?_exports (s : Stmt) :
    s.exports.filterMap Export.name? = s.exportedNames.map textOf := by
  unfold exports exportedNames
  cases s.bare with
  | exportDeclaration d => simp [List.filterMap_map, Function.comp_def, Export.name?, textOf_pointsOf]
  | exportList names source => simp [List.filterMap_map, Function.comp_def, Export.name?]
  | exportAll rename source => cases rename <;> simp [Export.name?]
  | exportDefault | exportDefaultFunction | exportDefaultClass => simp [Export.name?, textOf_pointsOf]
  | _ => rfl

theorem Stmt.pointsOf_textOf {s : Stmt} (h : ∀ x ∈ s.moduleNames, x.isText = true) :
    ∀ v ∈ s.exportedNames, pointsOf (textOf v) = v := by
  have hpoints (x : String) : pointsOf (textOf (pointsOf x)) = pointsOf x := by rw [textOf_pointsOf]
  unfold moduleNames at h
  unfold exportedNames
  cases hs : s.bare with
  | exportDeclaration d => simp [hpoints]
  | exportList names source =>
      rw [hs] at h
      intro v hv
      obtain ⟨n, hn, rfl⟩ := List.mem_map.mp hv
      have hmem : n.exported ∈ names.flatMap fun n => [n.localName, n.exported] :=
        List.mem_flatMap.mpr ⟨n, hn, by simp⟩
      exact eq_of_beq (h _ hmem)
  | exportAll rename source =>
      rw [hs] at h
      cases rename with
      | none => simp
      | some x => simpa [ModuleName.isText] using h
  | exportDefault | exportDefaultFunction | exportDefaultClass => simp [hpoints]
  | _ => simp

/-- **A module in plain form exports no name twice.** -/
theorem nodup_exports {text : List Char} {s : Script} (h : readModule .plain text = .ok s) :
    ((s.items.flatMap fun i => i.body.exports).filterMap Export.name?).Nodup := by
  obtain ⟨htexts, hnodup⟩ := names_of_readModule h
  have hnames : (s.items.flatMap fun i => i.body.exports).filterMap Export.name? =
      (s.items.flatMap fun i => i.body.exportedNames).map textOf := by
    rw [List.filterMap_flatMap, List.map_flatMap]
    exact List.flatMap_congr fun i _ => i.body.filterMap_name?_exports
  -- a name that is a text is told by its text
  have hback : ((s.items.flatMap fun i => i.body.exportedNames).map textOf).map pointsOf =
      s.items.flatMap fun i => i.body.exportedNames := by
    rw [List.map_map]
    refine (List.map_congr_left fun v hv => ?_).trans (List.map_id' _)
    obtain ⟨i, hi, hv⟩ := List.mem_flatMap.mp hv
    exact Stmt.pointsOf_textOf (fun x hx => htexts x (List.mem_flatMap.mpr ⟨i, hi, hx⟩)) v hv
  rw [← hback] at hnodup
  rw [hnames]
  exact List.Nodup.of_map pointsOf hnodup

end AppMend.Script
