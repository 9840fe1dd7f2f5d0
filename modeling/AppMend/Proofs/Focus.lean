import Mathlib.Data.List.Basic

/-!
# One among others

Of many that go on beside each other one takes a step, and the others stay as they are. So a list is looked
at as one element between those before it and those after it.
-/

namespace AppMend

variable {α : Type} {a a' b : α} {before after as : List α} {i n : Nat} {f : α → Nat}

/-- Whoever is there is the one that is looked at, or another one. -/
theorem mem_focus : b ∈ before ++ a :: after ↔ b = a ∨ b ∈ before ++ after := by
  rw [List.perm_middle.mem_iff, List.mem_cons]

theorem getElem?_focus : (before ++ a :: after)[before.length]? = some a := by
  simp

/-- The others stay where they are. -/
theorem getElem?_other (hi : i ≠ before.length) :
    (before ++ a' :: after)[i]? = (before ++ a :: after)[i]? := by
  have hset : before ++ a' :: after = (before ++ a :: after).set before.length a' := by simp
  rw [hset, List.getElem?_set_ne (Ne.symm hi)]

/-! ## What is left for all of them -/

/-- The sum of what is left for each. -/
def total (f : α → Nat) : List α → Nat
  | [] => 0
  | a :: as => f a + total f as

theorem total_focus : total f (before ++ a :: after) = f a + total f (before ++ after) := by
  induction before with
  | nil => rfl
  | cons b before ih =>
      show f b + total f (before ++ a :: after) = f a + (f b + total f (before ++ after))
      rw [ih, Nat.add_left_comm]

theorem total_of_forall (h : ∀ a ∈ as, f a = n) : total f as = as.length * n := by
  induction as with
  | nil => exact (Nat.zero_mul n).symm
  | cons a as ih =>
      show f a + total f as = _
      rw [h a List.mem_cons_self, ih fun b hb => h b (List.mem_cons_of_mem _ hb), List.length_cons,
        Nat.succ_mul, Nat.add_comm]

end AppMend
