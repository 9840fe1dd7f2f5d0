import AppMend.Proofs.Json.Spelling

/-!
# Where a mark stands in a document

A grave accent is no part of the format and of no escape. So a mark that is made of them, and stands in a
document that is written in some way, stands in one of the texts that the document holds
(`exists_hasText_of_written`). Whether it stands in a document at all hangs on how that is written, for in a
text any character may be escaped.
-/

namespace AppMend.Json

variable {α : Type} {m a b q s u w : List Char} {x : Char} {v : Value} {n k : Nat} {t name : String}
  {P : Value → List Char → Prop} {f : String × Value}

/-- A text that a document holds, as a value or as the name of a field. -/
inductive HasText (t : String) : Value → Prop where
  | value : HasText t (.str t)
  | item {v : Value} {vs : List Value} : v ∈ vs → HasText t v → HasText t (.arr vs)
  | name {v : Value} {fs : List (String × Value)} : (t, v) ∈ fs → HasText t (.obj fs)
  | field {f : String × Value} {fs : List (String × Value)} : f ∈ fs → HasText t f.2 → HasText t (.obj fs)

/-- A text that is made of grave accents. -/
structure Mark (m : List Char) : Prop where
  ne_nil : m ≠ []
  eq_tick : ∀ x ∈ m, x = '\x60'

/-! ## Marks in a text put together -/

theorem Mark.tick_mem (hm : Mark m) (h : m <:+: s) : '\x60' ∈ s := by
  obtain ⟨x, r, rfl⟩ := List.exists_cons_of_ne_nil hm.ne_nil
  exact hm.eq_tick x List.mem_cons_self ▸ h.subset List.mem_cons_self

/-- A mark does not begin in what has no grave accent. -/
theorem Mark.infix_of_append_left (hm : Mark m) (ha : '\x60' ∉ a) (h : m <:+: a ++ s) : m <:+: s := by
  rcases List.infix_append_iff_ne_nil.mp h with h | h | ⟨m₁, m₂, hne, -, rfl, hsuffix, -⟩
  · exact absurd (hm.tick_mem h) ha
  · exact h
  · obtain ⟨x, r, rfl⟩ := List.exists_cons_of_ne_nil hne
    obtain rfl := hm.eq_tick x (by simp)
    exact absurd (hsuffix.subset List.mem_cons_self) ha

/-- A mark stands on one side of what has no grave accent. -/
theorem Mark.infix_or (hm : Mark m) (hq : '\x60' ∉ q) (hne : q ≠ []) (h : m <:+: a ++ (q ++ b)) :
    m <:+: a ∨ m <:+: b := by
  rcases List.infix_append_iff_ne_nil.mp h with h | h | ⟨m₁, m₂, -, hm₂, rfl, -, hprefix⟩
  · exact .inl h
  · exact .inr (hm.infix_of_append_left hq h)
  · obtain ⟨x, q, rfl⟩ := List.exists_cons_of_ne_nil hne
    obtain ⟨y, r, rfl⟩ := List.exists_cons_of_ne_nil hm₂
    obtain rfl : y = x := (List.cons_prefix_cons.mp hprefix).1
    obtain rfl := hm.eq_tick y (by simp)
    exact absurd List.mem_cons_self hq

/-- A mark does not end in what has no grave accent. -/
theorem Mark.infix_of_append_right (hm : Mark m) (hb : '\x60' ∉ b) (h : m <:+: s ++ b) : m <:+: s := by
  by_cases hne : b = []
  · rwa [hne, List.append_nil] at h
  · rw [← List.append_nil b] at h
    rcases hm.infix_or hb hne h with h | h
    · exact h
    · exact absurd (List.infix_nil.mp h) hm.ne_nil

/-! ## Marks in a text -/

theorem IsHex.ne_tick (h : IsHex x k) : x ≠ '\x60' := by
  have hall : ∀ k < 16, Nat.digitChar k ≠ '\x60' ∧ (Nat.digitChar k).toUpper ≠ '\x60' := by decide
  obtain ⟨hk, rfl | rfl⟩ := h
  · exact (hall k hk).1
  · exact (hall k hk).2

theorem FourHex.no_tick (h : FourHex k s) : '\x60' ∉ s := by
  obtain ⟨h₁, h₂, h₃, h₄⟩ := h
  simp [h₁.ne_tick.symm, h₂.ne_tick.symm, h₃.ne_tick.symm, h₄.ne_tick.symm]

/-- An escape has no grave accent. -/
theorem WrittenChar.no_tick (h : WrittenChar x ('\\' :: u)) : '\x60' ∉ '\\' :: u := by
  cases h with
  | plain _ _ hx => exact absurd rfl hx
  | short hy =>
      have hall : ∀ p ∈ shortEscapes, '\x60' ≠ p.1 := by decide
      simp [hall _ hy]
  | code hs => simp [hs.no_tick]
  | halves _ _ _ _ _ hs ht => simp [hs.no_tick, ht.no_tick]

/-- A character stands for itself, or it is escaped. -/
theorem WrittenChar.eq_or_escape (h : WrittenChar x u) : u = [x] ∨ ∃ w, u = '\\' :: w := by
  cases h with
  | plain => exact .inl rfl
  | short | code | halves => exact .inr ⟨_, rfl⟩

/-- A text begins with the grave accents that it is written with. -/
theorem prefix_of_writtenChars (hm : ∀ y ∈ m, y = '\x60') (h : WrittenChars s u) (hu : m <+: u) : m <+: s := by
  induction h generalizing m with
  | nil => exact hu
  | cons hx _ ih =>
      cases m with
      | nil => exact List.nil_prefix
      | cons y m =>
          obtain ⟨hy, hm⟩ := List.forall_mem_cons.mp hm
          rcases hx.eq_or_escape with rfl | ⟨w, rfl⟩
          · obtain ⟨rfl, hrest⟩ := List.cons_prefix_cons.mp hu
            exact List.cons_prefix_cons.mpr ⟨rfl, ih hm hrest⟩
          · cases hy.symm.trans (List.cons_prefix_cons.mp hu).1

/-- A mark stands in a text if it stands in what that is written with. -/
theorem Mark.infix_of_writtenChars (hm : Mark m) (h : WrittenChars s u) (hu : m <:+: u) : m <:+: s := by
  induction h with
  | nil => exact hu
  | @cons x s u w hx hs ih =>
      rcases hx.eq_or_escape with rfl | ⟨w, rfl⟩
      · rcases List.infix_cons_iff.mp hu with hstart | hu
        · exact (prefix_of_writtenChars hm.eq_tick (.cons hx hs) hstart).isInfix
        · exact List.infix_cons (ih hu)
      · exact List.infix_cons (ih (hm.infix_of_append_left hx.no_tick hu))

theorem Mark.infix_of_writtenText (hm : Mark m) (h : WrittenText t u) (hu : m <:+: u) : m <:+: t.toList := by
  obtain ⟨h⟩ := h
  have hquote : '\x60' ∉ ['"'] := by decide
  exact hm.infix_of_writtenChars h (hm.infix_of_append_right hquote (hm.infix_of_append_left hquote hu))

/-! ## Marks in a document -/

theorem Blank.no_tick (h : Blank a) : '\x60' ∉ a := by
  intro htick
  have := h _ htick
  revert this
  decide

/-- A mark stands in one of the things that are written one after another. -/
theorem Mark.exists_of_listed {P : α → List Char → Prop} {as : List α} (hm : Mark m) (h : Listed P as u)
    (hu : m <:+: u) : ∃ a ∈ as, ∃ w, P a w ∧ m <:+: w := by
  induction h with
  | one h => exact ⟨_, List.mem_cons_self, _, h, hu⟩
  | @more a as u w h _ ih =>
      have hcomma : '\x60' ∉ [','] := by decide
      rcases hm.infix_or hcomma (List.cons_ne_nil _ _) hu with hu | hu
      · exact ⟨a, List.mem_cons_self, u, h, hu⟩
      · obtain ⟨b, hb, w, hw⟩ := ih hu
        exact ⟨b, List.mem_cons_of_mem _ hb, w, hw⟩

theorem Mark.of_item (hm : Mark m) (h : Item P v s) (hs : m <:+: s) : ∃ u, P v u ∧ m <:+: u := by
  obtain ⟨ha, hu, hb⟩ := h
  exact ⟨_, hu, hm.infix_of_append_right hb.no_tick (hm.infix_of_append_left ha.no_tick hs)⟩

/-- A mark in a field stands in its name or in its value. -/
theorem Mark.of_field (hm : Mark m) (h : Field P f s) (hs : m <:+: s) :
    m <:+: f.1.toList ∨ ∃ u, P f.2 u ∧ m <:+: u := by
  obtain @⟨a, q, b, u, name, v, ha, hq, hb, hv⟩ := h
  have hcolon : '\x60' ∉ b ++ [':'] := by simp [hb.no_tick]
  have hs : m <:+: q ++ ((b ++ [':']) ++ u) := by simpa using hm.infix_of_append_left ha.no_tick hs
  rcases hm.infix_or hcolon (by simp) hs with hs | hs
  · exact .inl (hm.infix_of_writtenText hq hs)
  · exact .inr (hm.of_item hv hs)

theorem Mark.exists_of_scalar (hm : Mark m) (h : Scalar v s) (hs : m <:+: s) :
    ∃ t, HasText t v ∧ m <:+: t.toList := by
  cases h with
  | null | yes | no => exact absurd (hm.tick_mem hs) (by decide)
  | text h => exact ⟨_, .value, hm.infix_of_writtenText h hs⟩

theorem Mark.exists_of_writtenIn (hm : Mark m) (h : WrittenIn n v s) (hs : m <:+: s) :
    ∃ t, HasText t v ∧ m <:+: t.toList := by
  induction n generalizing v s with
  | zero => exact hm.exists_of_scalar h hs
  | succ n ih =>
      rcases h with h | h
      · exact hm.exists_of_scalar h hs
      -- a mark does not stand in the brackets
      have hinner {x y : Char} {u : List Char} (hx : '\x60' ∉ [x]) (hy : '\x60' ∉ [y])
          (h : m <:+: x :: (u ++ [y])) : m <:+: u :=
        hm.infix_of_append_right hy (hm.infix_of_append_left (a := [x]) hx h)
      cases h with
      | noItems ha => exact absurd (hm.tick_mem (hinner (by decide) (by decide) hs)) ha.no_tick
      | items hvs =>
          obtain ⟨v, hv, w, hw, hmark⟩ := hm.exists_of_listed hvs (hinner (by decide) (by decide) hs)
          obtain ⟨u, hu, hmark⟩ := hm.of_item hw hmark
          obtain ⟨t, ht, hmark⟩ := ih hu hmark
          exact ⟨t, .item hv ht, hmark⟩
      | noFields ha => exact absurd (hm.tick_mem (hinner (by decide) (by decide) hs)) ha.no_tick
      | fields hnames hfs =>
          obtain ⟨f, hf, w, hw, hmark⟩ := hm.exists_of_listed hfs (hinner (by decide) (by decide) hs)
          rw [← Table.mem_ofList_iff hnames] at hf
          rw [Value.object_eq]
          rcases hm.of_field hw hmark with hmark | ⟨u, hu, hmark⟩
          · exact ⟨f.1, .name hf, hmark⟩
          · obtain ⟨t, ht, hmark⟩ := ih hu hmark
            exact ⟨t, .field hf ht, hmark⟩

/-- **A mark that stands in a document stands in one of its texts.** -/
theorem exists_hasText_of_written (hm : Mark m) (h : Written v s) (hs : m <:+: s) :
    ∃ t, HasText t v ∧ m <:+: t.toList := by
  obtain ⟨u, hu, hs⟩ := hm.of_item h hs
  exact hm.exists_of_writtenIn hu hs

end AppMend.Json
