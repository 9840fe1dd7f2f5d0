import Mathlib.Data.List.Basic
import Mathlib.Logic.Function.Basic
import AppMend.Proofs.Bundle.Names
import AppMend.Text.Letter

/-!
# Running what is written for a module

What is written for the imports of a module runs when the module is first asked for: it declares constants,
one after the other. Here modules are objects with properties (`World`), and each piece runs on what is
declared so far (`Piece.exec`). All that is written for a statement takes from the one module that the
statement asks for, so it comes down to bindings that are declared in turn (`execAll_emissions`).

So a body runs exactly if no name is declared twice and each key can be read (`exists_execAll_iff`), and then
its constants have the values of their bindings (`value_of_mem_bindings`).
-/

namespace AppMend.Bundle

open Script Text

/-! ## Objects and constants -/

/-- The objects that modules are, as far as bodies look into them. -/
structure World (α : Type) where
  /-- What the registry gives for a request (`__require`, `__external`). -/
  given : Resolution → α
  /-- Whether an object is marked as that of a module (`__esModule`). -/
  isMarked : α → Bool
  /-- A property of an object, if it is defined. -/
  property : α → String → Option α

/-- What constants are bound to so far, if anything. Within, `none` is what is not defined. -/
abbrev Env (α : Type) := String → Option (Option α)

variable {α : Type} {w : World α} {env env' : Env α} {m : α} {x n : String} {v : Option α}
  {p : Piece} {ps : List Piece} {e : Emission} {es : List Emission}

/-- What an object is imported as by default (`__default`). -/
def World.standard (w : World α) (m : α) : Option α :=
  if w.isMarked m then w.property m "default" else (w.property m "default").or (some m)

namespace Env

/-- A constant more. A name is declared once. -/
def declare (env : Env α) (x : String) (v : Option α) : Option (Env α) :=
  if (env x).isSome then none else some (Function.update env x (some v))

/-- Constants more, one after the other. -/
def declareAll (env : Env α) (bs : List (String × Option α)) : Option (Env α) :=
  bs.foldlM (fun env b => env.declare b.1 b.2) env

def Extends (env' env : Env α) : Prop := ∀ x v, env x = some v → env' x = some v

theorem declare_eq_some_iff :
    env.declare x v = some env' ↔ env x = none ∧ Function.update env x (some v) = env' := by
  unfold declare
  cases env x <;> simp

theorem declare_extends (h : env.declare x v = some env') : env'.Extends env := by
  obtain ⟨hx, rfl⟩ := declare_eq_some_iff.mp h
  intro y u hy
  have hne : y ≠ x := by
    rintro rfl
    rw [hx] at hy
    cases hy
  exact (Function.update_of_ne hne _ _).trans hy

theorem declareAll_cons (b : String × Option α) (bs : List (String × Option α)) :
    env.declareAll (b :: bs) = (env.declare b.1 b.2).bind fun env => env.declareAll bs :=
  List.foldlM_cons

theorem declareAll_singleton (b : String × Option α) : env.declareAll [b] = env.declare b.1 b.2 := by
  rw [declareAll_cons]
  cases env.declare b.1 b.2 <;> rfl

theorem declareAll_append (bs cs : List (String × Option α)) :
    env.declareAll (bs ++ cs) = (env.declareAll bs).bind fun env => env.declareAll cs :=
  List.foldlM_append

/-- **What is declared stays, and each constant has its value.** -/
theorem declareAll_spec {bs : List (String × Option α)} (h : env.declareAll bs = some env') :
    env'.Extends env ∧ ∀ b ∈ bs, env' b.1 = some b.2 := by
  induction bs generalizing env with
  | nil =>
      obtain rfl := Option.some.inj h
      exact ⟨fun _ _ hx => hx, by simp⟩
  | cons b bs ih =>
      rw [declareAll_cons] at h
      obtain ⟨env₁, hb, hbs⟩ := Option.bind_eq_some_iff.mp h
      obtain ⟨hextends, hvalues⟩ := ih hbs
      refine ⟨fun x v hx => hextends x v (declare_extends hb x v hx), fun c hc => ?_⟩
      rcases List.mem_cons.mp hc with rfl | hc
      · obtain ⟨_, rfl⟩ := declare_eq_some_iff.mp hb
        exact hextends _ _ (Function.update_self ..)
      · exact hvalues c hc

/-- Constants can be declared if their names are new and different. -/
theorem exists_declareAll_iff {bs : List (String × Option α)} :
    (∃ env', env.declareAll bs = some env') ↔ (bs.map (·.1)).Nodup ∧ ∀ b ∈ bs, env b.1 = none := by
  induction bs generalizing env with
  | nil => exact iff_of_true ⟨env, rfl⟩ ⟨.nil, by simp⟩
  | cons b bs ih =>
      rw [declareAll_cons, List.map_cons, List.nodup_cons, List.forall_mem_cons]
      constructor
      · rintro ⟨env', h⟩
        obtain ⟨env₁, hb, hbs⟩ := Option.bind_eq_some_iff.mp h
        obtain ⟨hnodup, hnew⟩ := ih.mp ⟨env', hbs⟩
        obtain ⟨hx, rfl⟩ := declare_eq_some_iff.mp hb
        -- the first name is taken when the others are declared
        have hne (c : String × Option α) (hc : c ∈ bs) : c.1 ≠ b.1 := by
          intro heq
          have hnone := hnew c hc
          rw [heq, Function.update_self] at hnone
          cases hnone
        refine ⟨⟨fun hmem => ?_, hnodup⟩, hx, fun c hc => ?_⟩
        · obtain ⟨c, hc, heq⟩ := List.mem_map.mp hmem
          exact hne c hc heq
        · rw [← hnew c hc, Function.update_of_ne (hne c hc)]
      · rintro ⟨⟨hne, hnodup⟩, hx, hnew⟩
        obtain ⟨env', h⟩ := @ih (Function.update env b.1 (some b.2)) |>.mpr ⟨hnodup, fun c hc => by
          rw [Function.update_of_ne fun heq => hne (List.mem_map.mpr ⟨c, hc, heq⟩)]
          exact hnew c hc⟩
        exact ⟨env', Option.bind_eq_some_iff.mpr ⟨_, declare_eq_some_iff.mpr ⟨hx, rfl⟩, h⟩⟩

end Env

/-! ## Running pieces -/

/-- The value of an expression; nothing if it needs what is not there. -/
def Operand.value? (w : World α) (env : Env α) : Operand → Option (Option α)
  | request r => some (some (w.given r))
  | name x => env x
  | standard module => (env module).map fun v => v.bind w.standard
  | property module key => (env module).bind fun v => v.map fun o => w.property o key

/-- Whether a text has the form of an identifier. -/
def isIdentifierName (name : String) : Bool :=
  match name.toList with
  | c :: more => isIdStart c && more.all isIdContinue
  | [] => false

/-- Whether the key of a property can be read: it is the name of the constant, or it is quoted, or it has the
form of an identifier. -/
def isReadable (field : String × String) : Bool :=
  field.1 == field.2 || propertyKey field.1 != field.1 || isIdentifierName field.1

namespace Piece

def isReadable : Piece → Bool
  | fields fs _ => fs.all Bundle.isReadable
  | _ => true

/-- What a piece declares, if it can be run. -/
def bindings? (w : World α) (env : Env α) : Piece → Option (List (String × Option α))
  | constant x value => (value.value? w env).map fun v => [(x, v)]
  | fields fs module => (env module).bind fun v => v.map fun o => fs.map fun f => (f.2, w.property o f.1)
  | _ => some []

/-- Runs a piece. -/
def exec (w : World α) (env : Env α) (p : Piece) : Option (Env α) :=
  if p.isReadable then (p.bindings? w env).bind env.declareAll else none

/-- A piece takes what it declares from one module. -/
def TakesFrom (module : String) : Piece → Prop
  | constant _ (.name x) | constant _ (.standard x) | constant _ (.property x _) | fields _ x => x = module
  | _ => False

/-- What a piece takes from a module. -/
def taken (w : World α) (m : α) : Piece → List (String × Option α)
  | constant x (.name _) => [(x, some m)]
  | constant x (.standard _) => [(x, w.standard m)]
  | constant x (.property _ key) => [(x, w.property m key)]
  | fields fs _ => fs.map fun f => (f.2, w.property m f.1)
  | _ => []

/-- A piece declares what it takes from the module. -/
theorem bindings?_of_takesFrom {module : String} (hp : p.TakesFrom module)
    (hm : env module = some (some m)) : p.bindings? w env = some (p.taken w m) := by
  cases p with
  | constant x value =>
      cases value with
      | request r => exact hp.elim
      | name | standard | property =>
          cases hp
          simp only [bindings?, Operand.value?, hm]
          rfl
  | fields fs y =>
      cases hp
      simp only [bindings?, hm]
      rfl
  | _ => exact hp.elim

theorem names_taken {module : String} (hp : p.TakesFrom module) (w : World α) (m : α) :
    (p.taken w m).map (·.1) = p.binds := by
  cases p with
  | constant x value =>
      cases value with
      | request r => exact hp.elim
      | _ => rfl
  | fields fs y => simp only [taken, binds, List.map_map]; rfl
  | _ => rfl

end Piece

/-- Runs pieces one after the other. -/
def execAll (w : World α) (ps : List Piece) (env : Env α) : Option (Env α) :=
  ps.foldlM (Piece.exec w) env

theorem execAll_cons : execAll w (p :: ps) env = (p.exec w env).bind fun env => execAll w ps env :=
  List.foldlM_cons

theorem execAll_append (ps qs : List Piece) :
    execAll w (ps ++ qs) env = (execAll w ps env).bind fun env => execAll w qs env :=
  List.foldlM_append

/-- Pieces that take from one module declare what they take, one after the other. -/
theorem execAll_of_takesFrom {module : String} (hps : ∀ p ∈ ps, p.TakesFrom module)
    (hm : env module = some (some m)) : execAll w ps env =
      if ps.all Piece.isReadable then env.declareAll (ps.flatMap fun p => p.taken w m) else none := by
  induction ps generalizing env with
  | nil => rfl
  | cons p ps ih =>
      obtain ⟨hp, hps⟩ := List.forall_mem_cons.mp hps
      rw [execAll_cons, Piece.exec, Piece.bindings?_of_takesFrom hp hm, List.all_cons, List.flatMap_cons,
        Env.declareAll_append]
      cases p.isReadable with
      | false => rfl
      | true =>
          rw [if_pos rfl, Option.bind_some, Bool.true_and]
          cases hone : env.declareAll (p.taken w m) with
          | none => split <;> rfl
          | some env₁ => exact ih hps ((Env.declareAll_spec hone).1 _ _ hm)

namespace Piece

theorem execAll_of_declaresNothing (hps : ∀ p ∈ ps, p.DeclaresNothing) (w : World α) (env : Env α) :
    execAll w ps env = some env := by
  induction ps with
  | nil => rfl
  | cons p ps ih =>
      obtain ⟨hp, hps⟩ := List.forall_mem_cons.mp hps
      have hexec : p.exec w env = some env := by
        cases p with
        | constant | fields => exact hp.elim
        | _ => rfl
      rw [execAll_cons, hexec]
      exact ih hps

theorem all_isReadable (hps : ∀ p ∈ ps, p.DeclaresNothing) : ps.all isReadable = true := by
  refine List.all_eq_true.mpr fun p hp => ?_
  have hp := hps p hp
  cases p with
  | constant | fields => exact hp.elim
  | _ => rfl

end Piece

/-! ## Running what is written for a module -/

namespace Emission

/-- What is declared by what is written for a statement: the module that is asked for, and what is taken from
it. -/
def bindings (w : World α) (e : Emission) : List (String × Option α) :=
  match e.pieces with
  | .constant module (.request r) :: ps =>
    (module, some (w.given r)) :: ps.flatMap fun p => p.taken w (w.given r)
  | _ => []

/-- What is written for a statement asks for one module and takes from it, or it declares nothing. -/
inductive IsPlain (e : Emission) : Prop where
  | asks {module : String} {r : Resolution} {ps : List Piece} :
      e.pieces = .constant module (.request r) :: ps → (∀ p ∈ ps, p.TakesFrom module) → IsPlain e
  | declaresNothing : (∀ p ∈ e.pieces, p.DeclaresNothing) → IsPlain e

/-- **What is written for a statement declares its bindings, one after the other.** -/
theorem IsPlain.execAll_pieces (he : e.IsPlain) (w : World α) (env : Env α) : execAll w e.pieces env =
    if e.pieces.all Piece.isReadable then env.declareAll (e.bindings w) else none := by
  unfold bindings
  cases he with
  | @asks module r ps hpieces hps =>
      have hreadable : (Piece.constant module (.request r)).isReadable = true := rfl
      have hexec : (Piece.constant module (.request r)).exec w env =
          env.declare module (some (w.given r)) := Env.declareAll_singleton (module, some (w.given r))
      rw [hpieces, execAll_cons, Env.declareAll_cons, hexec, List.all_cons, hreadable, Bool.true_and]
      -- once the module is declared, what is taken from it is known
      cases hmodule : env.declare module (some (w.given r)) with
      | none => split <;> rfl
      | some env₁ =>
          obtain ⟨_, rfl⟩ := Env.declare_eq_some_iff.mp hmodule
          exact execAll_of_takesFrom hps (Function.update_self ..)
  | declaresNothing hps =>
      cases hpieces : e.pieces with
      | nil => rfl
      | cons p ps =>
          rw [hpieces] at hps
          rw [Piece.execAll_of_declaresNothing hps w env, if_pos (Piece.all_isReadable hps)]
          cases p with
          | constant x value => exact (List.forall_mem_cons.mp hps).1.elim
          | _ => rfl

theorem IsPlain.names_bindings (he : e.IsPlain) (w : World α) : (e.bindings w).map (·.1) = e.constants := by
  unfold bindings constants
  cases he with
  | @asks module r ps hpieces hps =>
      rw [hpieces, List.map_cons, List.map_flatMap, List.flatMap_cons]
      exact congrArg (module :: ·) (List.flatMap_congr fun p hp => Piece.names_taken (hps p hp) w _)
  | declaresNothing hps =>
      have hnone : e.pieces.flatMap Piece.binds = [] :=
        List.flatMap_eq_nil_iff.mpr fun p hp => Piece.binds_of_declaresNothing (hps p hp)
      rw [hnone]
      split
      · rename_i module r ps hpieces
        have hfirst : (Piece.constant module (.request r)).DeclaresNothing :=
          hps _ (hpieces ▸ List.mem_cons_self)
        exact hfirst.elim
      · rfl

end Emission

theorem takesFrom_takingPieces {module : String} {specifiers : List Specifier} :
    ∀ p ∈ takingPieces module specifiers, p.TakesFrom module := by
  intro p hp
  rcases List.mem_append.mp hp with hp | hp
  · obtain ⟨b, _, hb⟩ := List.mem_filterMap.mp hp
    cases b with
    | standard x | whole x =>
        obtain rfl := Option.some.inj hb
        rfl
    | named imported x isType =>
        simp only [ownPiece?] at hb
        split at hb
        · obtain rfl := Option.some.inj hb
          rfl
        · cases hb
  · split at hp
    · cases hp
    · obtain rfl := List.mem_singleton.mp hp
      rfl

theorem isPlain_emission (resolve : String → Resolution) (made : Nat) (i : Item) :
    (emission resolve made i).IsPlain := by
  rcases form_emission resolve made i with ⟨_, _, hpieces, _⟩ | ⟨_, hps, _⟩
  · exact .asks hpieces takesFrom_takingPieces
  · exact .declaresNothing hps

/-! ## Modules -/

/-- Whether what is written can be run: no name is declared twice, and each key can be read. -/
def CanRun (es : List Emission) : Prop :=
  (constantsOf es).Nodup ∧ (es.flatMap (·.pieces)).all Piece.isReadable = true

instance (es : List Emission) : Decidable (CanRun es) := inferInstanceAs (Decidable (_ ∧ _))

/-- Nothing is declared. -/
def Env.empty : Env α := fun _ => none

theorem execAll_emissions (hes : ∀ e ∈ es, e.IsPlain) (w : World α) (env : Env α) :
    execAll w (es.flatMap (·.pieces)) env =
      if (es.flatMap (·.pieces)).all Piece.isReadable then
        env.declareAll (es.flatMap fun e => e.bindings w) else none := by
  induction es generalizing env with
  | nil => rfl
  | cons e es ih =>
      obtain ⟨he, hes⟩ := List.forall_mem_cons.mp hes
      rw [List.flatMap_cons, List.flatMap_cons, execAll_append, he.execAll_pieces, List.all_append,
        Env.declareAll_append]
      cases e.pieces.all Piece.isReadable with
      | false => rfl
      | true =>
          rw [if_pos rfl, Bool.true_and]
          cases env.declareAll (e.bindings w) with
          | none => split <;> rfl
          | some env₁ => exact ih hes env₁

/-- **A body runs exactly if no name is declared twice and each key can be read.** -/
theorem exists_execAll_iff (hes : ∀ e ∈ es, e.IsPlain) (w : World α) :
    (∃ env, execAll w (es.flatMap (·.pieces)) .empty = some env) ↔ CanRun es := by
  have hnames : (es.flatMap fun e => e.bindings w).map (·.1) = constantsOf es := by
    rw [List.map_flatMap, constantsOf]
    exact List.flatMap_congr fun e he => (hes e he).names_bindings w
  rw [execAll_emissions hes, CanRun]
  split
  · rename_i hreadable
    rw [Env.exists_declareAll_iff, hnames]
    exact ⟨fun h => ⟨h.1, hreadable⟩, fun h => ⟨h.1, fun b _ => rfl⟩⟩
  · rename_i hreadable
    exact iff_of_false (by simp) fun h => hreadable h.2

theorem isPlain_emissions (resolve : String → Resolution) (items : List Item) :
    ∀ e ∈ emissions resolve 0 items, e.IsPlain := by
  intro e he
  obtain ⟨i, _, made, rfl⟩ := mem_emissions he
  exact isPlain_emission resolve made i

/-- When the body has run, its constants have the values of their bindings. -/
theorem value_of_mem_bindings (hes : ∀ e ∈ es, e.IsPlain)
    (h : execAll w (es.flatMap (·.pieces)) .empty = some env) (he : e ∈ es) (hb : (x, v) ∈ e.bindings w) :
    env x = some v := by
  rw [execAll_emissions hes] at h
  split at h
  · exact (Env.declareAll_spec h).2 _ (List.mem_flatMap.mpr ⟨e, he, hb⟩)
  · cases h

end AppMend.Bundle
