import Mathlib.Data.List.Forall2

/-!
# Outcomes of steps that can fail

Steps one after another succeed if each of them does, and so does one step for each of a list.
-/

namespace AppMend

variable {ε α β : Type} {x : Except ε α} {f : α → Except ε β} {b : β} {as : List α} {bs : List β}

theorem bind_eq_ok_iff : (x >>= f) = .ok b ↔ ∃ a, x = .ok a ∧ f a = .ok b := by
  cases x with
  | ok a =>
      constructor
      · exact fun h => ⟨a, rfl, h⟩
      · rintro ⟨a', ha, h⟩
        cases ha
        exact h
  | error e =>
      constructor
      · intro h
        cases h
      · rintro ⟨a, ha, _⟩
        cases ha

/-- **One step for each of a list succeeds if all of them do.** -/
theorem mapM_eq_ok_iff : as.mapM f = .ok bs ↔ List.Forall₂ (fun a b => f a = .ok b) as bs := by
  induction as generalizing bs with
  | nil =>
      rw [List.mapM_nil, List.forall₂_nil_left_iff]
      exact ⟨fun h => (Except.ok.inj h).symm, fun h => h ▸ rfl⟩
  | cons a as ih =>
      rw [List.mapM_cons, bind_eq_ok_iff, List.forall₂_cons_left_iff]
      refine exists_congr fun b => ?_
      rw [bind_eq_ok_iff]
      constructor
      · rintro ⟨hb, cs, hcs, h⟩
        exact ⟨cs, hb, ih.mp hcs, (Except.ok.inj h).symm⟩
      · rintro ⟨cs, hb, hcs, rfl⟩
        exact ⟨hb, cs, ih.mpr hcs, rfl⟩

/-- If a step succeeds for what can be described, steps for a list succeed if each of it can. -/
theorem mapM_eq_ok_iff_exists {γ : Type} {R : α → γ → Prop} {g : γ → β}
    (hf : ∀ a b, f a = .ok b ↔ ∃ c, R a c ∧ b = g c) :
    as.mapM f = .ok bs ↔ ∃ cs, List.Forall₂ R as cs ∧ bs = cs.map g := by
  rw [mapM_eq_ok_iff]
  simp only [hf]
  induction as generalizing bs with
  | nil =>
      rw [List.forall₂_nil_left_iff]
      simp
  | cons a as ih =>
      rw [List.forall₂_cons_left_iff]
      constructor
      · rintro ⟨b, bs, ⟨c, hc, rfl⟩, hbs, rfl⟩
        obtain ⟨cs, hcs, rfl⟩ := ih.mp hbs
        exact ⟨c :: cs, .cons hc hcs, rfl⟩
      · rintro ⟨cs, h, rfl⟩
        obtain ⟨c, cs, hc, hcs, rfl⟩ := List.forall₂_cons_left_iff.mp h
        exact ⟨g c, cs.map g, ⟨c, hc, rfl⟩, ih.mpr ⟨cs, hcs, rfl⟩, rfl⟩

end AppMend
