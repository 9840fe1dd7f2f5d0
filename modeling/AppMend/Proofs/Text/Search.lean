import AppMend.Text.Search

/-!
# Texts in other texts

A text is cut where another occurs in it for the first time, and only there (`cut?_eq_some_iff`).

Between the occurrences that are taken out a text falls into pieces (`Pieces`), and what is left are the
pieces put together (`replaceAll_of_pieces`). So something may be found afterwards that the text did not
have: it stands in none of the pieces then, but straddles a place where two of them meet
(`infix_replaceAll_iff`).
-/

namespace AppMend.Text

variable {p s m a b : List Char} {xs : List (List Char)}

/-! ## The first occurrence -/

theorem dropStart?_eq_none_iff : dropStart? p s = none ↔ ¬p <+: s := by
  rw [dropStart?]
  split
  · rename_i h
    simp [List.isPrefixOf_iff_prefix.mp h]
  · rename_i h
    simp [mt List.isPrefixOf_iff_prefix.mpr h]

/-- A text in which another does not occur is not cut. -/
theorem cut?_eq_none_iff : cut? p s = none ↔ ¬p <:+: s := by
  rw [← occursIn_iff, occursIn, Option.not_isSome_iff_eq_none]

/-- No occurrence comes before the one where a text is cut. -/
theorem length_le_of_cut? (h : cut? p s = some (a, b)) {x y : List Char} (hs : s = x ++ p ++ y) :
    a.length ≤ x.length := by
  induction s generalizing a x with
  | nil =>
      have ha : a = [] := by
        have := cut?_eq_some h
        simp_all
      simp [ha]
  | cons c s ih =>
      rw [cut?] at h
      split at h
      · obtain ⟨rfl, -⟩ : [] = a ∧ _ := by simpa using h
        simp
      · rename_i hstart
        obtain ⟨⟨a', b'⟩, hcut, he⟩ := Option.map_eq_some_iff.mp h
        obtain ⟨rfl, rfl⟩ : c :: a' = a ∧ b' = b := by simpa using he
        cases x with
        | nil => exact absurd ⟨y, by simpa using hs.symm⟩ (dropStart?_eq_none_iff.mp hstart)
        | cons d x =>
            obtain ⟨-, hs⟩ := List.cons.inj hs
            exact Nat.succ_le_succ (ih hcut hs)

/-- **A text is cut where another occurs in it for the first time.** -/
theorem cut?_eq_some_iff : cut? p s = some (a, b) ↔
    s = a ++ p ++ b ∧ ∀ x y, s = x ++ p ++ y → a.length ≤ x.length := by
  refine ⟨fun h => ⟨cut?_eq_some h, fun x y => length_le_of_cut? h⟩, fun ⟨hs, hfirst⟩ => ?_⟩
  cases hcut : cut? p s with
  | none => exact absurd ⟨a, b, hs.symm⟩ (cut?_eq_none_iff.mp hcut)
  | some r =>
      obtain ⟨a', b'⟩ := r
      have hs' : s = a' ++ p ++ b' := cut?_eq_some hcut
      have hlength : a'.length = a.length :=
        Nat.le_antisymm (length_le_of_cut? hcut hs) (hfirst a' b' hs')
      rw [List.append_assoc] at hs hs'
      obtain ⟨rfl, hrest⟩ := List.append_inj (hs'.symm.trans hs) hlength
      rw [List.append_cancel_left hrest]

/-! ## What is left when a text is taken out -/

/-- The pieces of a text between the occurrences of `p`, each of which comes first in what follows the
one before it. The empty text leaves no pieces. -/
inductive Pieces (p : List Char) : List Char → List (List Char) → Prop where
  | last {s : List Char} : ¬p <:+: s → Pieces p s [s]
  | cons {a b : List Char} {xs : List (List Char)} :
      (∀ x y, a ++ p ++ b = x ++ p ++ y → a.length ≤ x.length) → Pieces p b xs →
      Pieces p (a ++ p ++ b) (a :: xs)

theorem Pieces.ne_nil (h : Pieces p s xs) : p ≠ [] := by
  induction h with
  | last hno => exact fun hp => hno (hp ▸ List.nil_infix)
  | cons _ _ ih => exact ih

theorem exists_pieces (hp : p ≠ []) (s : List Char) : ∃ xs, Pieces p s xs := by
  induction hn : s.length using Nat.strongRecOn generalizing s with
  | _ n ih =>
      cases hcut : cut? p s with
      | none => exact ⟨[s], .last (cut?_eq_none_iff.mp hcut)⟩
      | some r =>
          obtain ⟨a, b⟩ := r
          obtain ⟨rfl, hfirst⟩ := cut?_eq_some_iff.mp hcut
          have hshort : b.length < n := by
            have := List.length_pos_iff.mpr hp
            rw [← hn, List.length_append, List.length_append]
            omega
          obtain ⟨xs, hxs⟩ := ih b.length hshort b rfl
          exact ⟨a :: xs, .cons hfirst hxs⟩

/-- Every piece stands in the text. -/
theorem Pieces.infix_of_mem (h : Pieces p s xs) {x : List Char} (hx : x ∈ xs) : x <:+: s := by
  induction h with
  | last => exact List.mem_singleton.mp hx ▸ List.infix_refl _
  | @cons a b xs _ _ ih =>
      rcases List.mem_cons.mp hx with rfl | hx
      · exact ⟨[], p ++ b, by simp⟩
      · exact (ih hx).trans ⟨a ++ p, [], by simp⟩

/-- **What is left are the pieces put together.** -/
theorem replaceAll_of_pieces (h : Pieces p s xs) : replaceAll p [] s = xs.flatten := by
  have hgo (n : Nat) (hn : s.length ≤ n) : replaceAll.go p [] n s = xs.flatten := by
    induction h generalizing n with
    | @last s hno =>
        cases n with
        | zero => simp [replaceAll.go]
        | succ n => simp [replaceAll.go, cut?_eq_none_iff.mpr hno]
    | @cons a b xs hfirst hrest ih =>
        have hp : p ≠ [] := hrest.ne_nil
        have hlength := List.length_pos_iff.mpr hp
        rw [List.length_append, List.length_append] at hn
        cases n with
        | zero => omega
        | succ n =>
            have hcut : cut? p (a ++ p ++ b) = some (a, b) := cut?_eq_some_iff.mpr ⟨rfl, hfirst⟩
            rw [replaceAll.go, hcut]
            simp only [List.isEmpty_iff, hp, if_false, List.append_nil, List.flatten_cons]
            rw [ih n (by omega)]
  exact hgo s.length (Nat.le_refl _)

theorem replaceAll_nil (new s : List Char) : replaceAll [] new s = s := by
  unfold replaceAll
  cases s with
  | nil => rfl
  | cons c s => simp [replaceAll.go, cut?, dropStart?]

/-! ## What the pieces show together -/

/-- A text stands across a place where pieces meet. -/
def Straddles (m : List Char) (xs : List (List Char)) : Prop :=
  ∃ l r m₁ m₂, xs = l ++ r ∧ m = m₁ ++ m₂ ∧ m₁ ≠ [] ∧ m₂ ≠ [] ∧ m₁ <:+ l.flatten ∧ m₂ <+: r.flatten

theorem Straddles.infix_flatten (h : Straddles m xs) : m <:+: xs.flatten := by
  obtain ⟨l, r, m₁, m₂, rfl, rfl, -, -, ⟨a, hl⟩, b, hr⟩ := h
  refine ⟨a, b, ?_⟩
  rw [List.flatten_append, ← hl, ← hr]
  simp

theorem Straddles.cons (h : Straddles m xs) (x : List Char) : Straddles m (x :: xs) := by
  obtain ⟨l, r, m₁, m₂, rfl, hm, h₁, h₂, hl, hr⟩ := h
  refine ⟨x :: l, r, m₁, m₂, rfl, hm, h₁, h₂, ?_, hr⟩
  rw [List.flatten_cons]
  exact hl.trans (List.suffix_append x l.flatten)

/-- What pieces show together stands in one of them, or across a place where they meet. -/
theorem infix_or_straddles (hm : m ≠ []) (h : m <:+: xs.flatten) :
    (∃ x ∈ xs, m <:+: x) ∨ Straddles m xs := by
  induction xs with
  | nil => exact absurd (List.infix_nil.mp h) hm
  | cons x xs ih =>
      rw [List.flatten_cons, List.infix_append_iff_ne_nil] at h
      rcases h with h | h | ⟨m₁, m₂, h₁, h₂, hsplit, hl, hr⟩
      · exact .inl ⟨x, List.mem_cons_self, h⟩
      · rcases ih h with ⟨y, hy, hin⟩ | hacross
        · exact .inl ⟨y, List.mem_cons_of_mem _ hy, hin⟩
        · exact .inr (hacross.cons x)
      · exact .inr ⟨[x], xs, m₁, m₂, rfl, hsplit, h₁, h₂, by simpa using hl, hr⟩

/-- **What is found only after a text was taken out straddles a place where pieces meet.** -/
theorem infix_replaceAll_iff (hm : ¬m <:+: s) :
    m <:+: replaceAll p [] s ↔ ∃ xs, Pieces p s xs ∧ Straddles m xs := by
  constructor
  · intro h
    by_cases hp : p = []
    · rw [hp, replaceAll_nil] at h
      exact absurd h hm
    · obtain ⟨xs, hxs⟩ := exists_pieces hp s
      rw [replaceAll_of_pieces hxs] at h
      refine ⟨xs, hxs, ?_⟩
      have hne : m ≠ [] := by
        rintro rfl
        exact hm List.nil_infix
      rcases infix_or_straddles hne h with ⟨x, hx, hin⟩ | hacross
      · exact absurd (hin.trans (hxs.infix_of_mem hx)) hm
      · exact hacross
  · rintro ⟨xs, hxs, hacross⟩
    rw [replaceAll_of_pieces hxs]
    exact hacross.infix_flatten

end AppMend.Text
