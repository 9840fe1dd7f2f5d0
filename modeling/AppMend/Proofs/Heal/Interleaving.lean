import AppMend.Heal.Call
import AppMend.Proofs.Heal.Schedule

/-!
# Heals in any order

Calls of heals with their steps in any order whatever. A call takes a step at any time (`HealCall.Step`); it
can be called off or dropped between any two steps, and the browser and the generator can be others at each
step (`HealCall.Move`). An interleaving is any number of such moves, with a record of what was shared before
and after each.
-/

namespace AppMend

namespace HealCall

/-- Calls with what they share. -/
abbrev Scene := List HealCall × HealShared

/-- A step of a call, at some time. -/
inductive Step (w : HealWorld) : HealCall → HealShared → HealCall → HealShared → Prop where
  | mk {now : Nat} {k k' : HealCall} {x x' : HealShared} : k.step? w now x = some (k', x') →
      Step w k x k' x'

/-- All that can happen to a call. -/
inductive Move : HealCall → HealShared → HealCall → HealShared → Prop where
  | step {w : HealWorld} {k k' : HealCall} {x x' : HealShared} : Step w k x k' x' → Move k x k' x'
  | cancel {k : HealCall} {x : HealShared} : Move k x k.cancel x
  | drop {k k' : HealCall} {x x' : HealShared} : k.drop? x = some (k', x') → Move k x k' x'

/-- A move of the call of a number, by what is shared before and after it. -/
structure Turn where
  call : Nat
  before : HealShared
  after : HealShared

/-- Any number of moves of a kind, the last one first. -/
inductive Interleaving (M : HealCall → HealShared → HealCall → HealShared → Prop) (start : Scene) :
    List Turn → Scene → Prop where
  | refl : Interleaving M start [] start
  | move {ts : List Turn} {before after : List HealCall} {k k' : HealCall} {x x' : HealShared} :
      Interleaving M start ts (before ++ k :: after, x) → M k x k' x' →
      Interleaving M start (⟨before.length, x, x'⟩ :: ts) (before ++ k' :: after, x')

variable {w : HealWorld} {now : Nat} {x x' : HealShared} {y z : Scene} {k k' : HealCall}
  {M : HealCall → HealShared → HealCall → HealShared → Prop} {ts : List Turn}

/-- **What every move keeps, every interleaving keeps.** -/
theorem interleaving_induction {P : Scene → Prop}
    (hmove : ∀ before k after x k' x', P (before ++ k :: after, x) → M k x k' x' →
      P (before ++ k' :: after, x')) (h : Interleaving M y ts z) (h0 : P y) : P z := by
  induction h with
  | refl => exact h0
  | move _ hm ih => exact hmove _ _ _ _ _ _ ih hm

/-- A step of a call is one of its heal, which sees nobody else called off. -/
theorem step?_eq_some (hs : k.step? w now x = some (k', x')) :
    ∃ h y, k.dropped = false ∧ h.session = k.heal.session ∧
      Heal.Step (k.world w) now k.heal.session (k.view x) k.heal.activity h.activity y ∧
      k' = { k with heal := h, cancelled := y.calledOff } ∧ x' = share x y := by
  unfold step? at hs
  split at hs
  · cases hs
  · rename_i hd
    obtain ⟨⟨h, y⟩, hstep, he⟩ := Option.map_eq_some_iff.mp hs
    obtain ⟨rfl, rfl⟩ := Prod.mk.inj he
    obtain ⟨hn, hstep⟩ := Heal.step_of_step? hstep
    exact ⟨h, y, Bool.eq_false_iff.mpr hd, hn, hstep, rfl, rfl⟩

theorem drop?_eq_some (hs : k.drop? x = some (k', x')) :
    k.dropped = false ∧ k' = { k with dropped := true } ∧ x' = k.letGo x := by
  unfold drop? at hs
  split at hs
  · cases hs
  · rename_i hd
    obtain ⟨rfl, rfl⟩ := Prod.mk.inj (Option.some.inj hs)
    exact ⟨Bool.eq_false_iff.mpr hd, rfl, rfl⟩

end HealCall

end AppMend
