import AppMend.Proofs.Text.Completeness

/-!
# What patterns match, by their parts

A pattern that is built from texts, classes, repeated classes and choices matches by passing a stretch of text
(`Cursor.Passes`), and each way to build one has a statement of which stretches these are. So what a pattern
matches is read off its parts, and stretches one behind the other make one stretch (`Cursor.Passes.trans`).

A search tries more rounds of a class before fewer, so what it goes on with is the longest stretch behind
which the rest of the search succeeds (`longest_of_rounds`); a lazy search goes on with the shortest
(`shortest_of_fewRounds`).
-/

namespace AppMend.Text.Pattern

variable {α : Type} {p q : Pattern} {ps : List Pattern} {c d e : Cursor} {is : Char → Bool} {f : Found}
  {before s u v w : List Char} {n : Nat}

/-! ## Stretches that are passed -/

/-- From one cursor to another a stretch of text is walked. -/
structure Cursor.Walks (u : List Char) (c d : Cursor) : Prop where
  rest_eq : c.rest = u ++ d.rest
  before_eq : d.before = u.reverse ++ c.before

/-- A stretch of text is walked, and nothing is remembered. -/
structure Cursor.Passes (u : List Char) (c d : Cursor) : Prop extends Walks u c d where
  groups_eq : d.groups = c.groups

namespace Cursor

theorem Walks.trans (h : Walks u c d) (h' : Walks v d e) : Walks (u ++ v) c e :=
  ⟨by rw [h.rest_eq, h'.rest_eq, List.append_assoc],
    by rw [h'.before_eq, h.before_eq, List.reverse_append, List.append_assoc]⟩

theorem Walks.offset_eq (h : Walks u c d) : d.offset = c.offset + u.length := by
  rw [offset, h.before_eq, List.length_append, List.length_reverse, Nat.add_comm]
  rfl

/-- What is remembered on the way changes no place. -/
theorem Walks.remember (h : Walks u c d) (groups : List (Nat × Nat × Nat)) :
    Walks u c { d with groups := groups } := ⟨h.rest_eq, h.before_eq⟩

namespace Passes

theorem refl (c : Cursor) : Passes [] c c := ⟨⟨rfl, rfl⟩, rfl⟩

theorem trans (h : Passes u c d) (h' : Passes v d e) : Passes (u ++ v) c e :=
  ⟨h.toWalks.trans h'.toWalks, h'.groups_eq.trans h.groups_eq⟩

/-- A cursor can pass what it stands before. -/
theorem of_rest (h : c.rest = u ++ s) : Passes u c ⟨u.reverse ++ c.before, s, c.groups⟩ := ⟨⟨h, rfl⟩, rfl⟩

theorem eq (h : Passes u c d) : d = ⟨u.reverse ++ c.before, d.rest, c.groups⟩ := by
  obtain ⟨before, rest, groups⟩ := d
  obtain ⟨⟨_, hbefore⟩, hgroups⟩ := h
  obtain rfl : before = u.reverse ++ c.before := hbefore
  obtain rfl : groups = c.groups := hgroups
  rfl

theorem eq_of_nil (h : Passes [] c d) : d = c := by
  obtain ⟨before, rest, groups⟩ := c
  obtain rfl : rest = d.rest := h.rest_eq
  rw [h.eq]
  rfl

/-- From a cursor a stretch is passed to one place only. -/
theorem unique (h : Passes u c d) (h' : Passes u c e) : e = d := by
  have hrest : e.rest = d.rest := List.append_cancel_left (h'.rest_eq.symm.trans h.rest_eq)
  rw [h.eq, h'.eq, hrest]

/-- A stretch is passed in two parts. -/
theorem split (h : Passes (u ++ v) c d) : ∃ e, Passes u c e ∧ Passes v e d :=
  ⟨⟨u.reverse ++ c.before, v ++ d.rest, c.groups⟩, of_rest (by rw [h.rest_eq, List.append_assoc]),
    ⟨rfl, by rw [h.before_eq, List.reverse_append, List.append_assoc]⟩, h.groups_eq⟩

end Passes

end Cursor

open Cursor (Passes)

/-! ## The parts of a pattern -/

theorem matches_nothing_iff : Matches .nothing c d ↔ d = c := by
  constructor
  · intro h
    cases h
    rfl
  · rintro rfl
    exact .nothing

theorem matches_seq_iff : Matches (.seq p q) c e ↔ ∃ d, Matches p c d ∧ Matches q d e :=
  ⟨Matches.of_seq, fun ⟨_, hp, hq⟩ => .seq hp hq⟩

theorem matches_alt_iff : Matches (.alt p q) c d ↔ Matches p c d ∨ Matches q c d := by
  constructor
  · intro h
    cases h with
    | left h => exact .inl h
    | right h => exact .inr h
  · rintro (h | h)
    · exact .left h
    · exact .right h

theorem matches_wordEdge_iff : Matches .wordEdge c d ↔ d = c ∧ c.atWordEdge = true := by
  constructor
  · intro h
    cases h with
    | wordEdge hc => exact ⟨rfl, hc⟩
  · rintro ⟨rfl, hc⟩
    exact .wordEdge hc

theorem matches_group_iff {i : Nat} : Matches (.group i p) c e ↔
    ∃ d, Matches p c d ∧ e = { d with groups := (i, c.offset, d.offset) :: d.groups } := by
  constructor
  · intro h
    cases h with
    | group h => exact ⟨_, h, rfl⟩
  · rintro ⟨d, h, rfl⟩
    exact .group h

theorem matches_one_iff : Matches (.one is) c d ↔ ∃ x, is x = true ∧ Passes [x] c d := by
  constructor
  · intro h
    cases h with
    | one hx => exact ⟨_, hx, .of_rest rfl⟩
  · rintro ⟨x, hx, h⟩
    obtain ⟨before, rest, groups⟩ := c
    obtain rfl : rest = x :: d.rest := h.rest_eq
    rw [h.eq]
    exact .one hx

/-! ## Characters of a text -/

/-- What is decided of each character of a text holds of all. -/
theorem forall_of_all {b : Bool} (h : (s.all fun x => is x == b) = true) : ∀ x ∈ s, is x = b :=
  fun x hx => eq_of_beq (List.all_eq_true.mp h x hx)

/-! ## Words next to a cursor -/

/-- No word goes on at the start of a text. -/
def NoWord (s : List Char) : Prop := ∀ x ∈ s.head?, isWord x = false

/-- No word ends at the end of a text. -/
def EndsNoWord (s : List Char) : Prop := ∀ x ∈ s.getLast?, isWord x = false

/-- Behind a character of a word there is the edge of a word exactly if no word goes on. -/
theorem atWordEdge_iff_noWord {x : Char} (hbefore : c.before.head? = some x) (hx : isWord x = true) :
    c.atWordEdge = true ↔ NoWord c.rest := by
  unfold Cursor.atWordEdge NoWord
  rw [hbefore]
  cases c.rest <;> simp [hx]

/-- Before a character of a word there is the edge of a word exactly if no word ends. -/
theorem atWordEdge_iff_endsNoWord {x : Char} (hrest : c.rest.head? = some x) (hx : isWord x = true) :
    c.atWordEdge = true ↔ EndsNoWord c.before.reverse := by
  unfold Cursor.atWordEdge EndsNoWord
  rw [hrest, List.getLast?_reverse]
  cases c.before <;> simp [hx]

/-! ## Texts and stretches -/

/-- A text that is written out is matched by itself. -/
theorem matches_chars_iff : Matches (chars w) c d ↔ Passes w c d := by
  induction w generalizing c with
  | nil =>
      rw [chars, matches_nothing_iff]
      exact ⟨fun h => h ▸ .refl c, Passes.eq_of_nil⟩
  | cons x w ih =>
      rw [chars, matches_seq_iff]
      constructor
      · rintro ⟨e, hx, hw⟩
        obtain ⟨y, hy, hpass⟩ := matches_one_iff.mp hx
        obtain rfl := eq_of_beq hy
        exact hpass.trans (ih.mp hw)
      · intro h
        obtain ⟨e, hx, hw⟩ := Passes.split (u := [x]) h
        exact ⟨e, matches_one_iff.mpr ⟨x, beq_self_eq_true x, hx⟩, ih.mpr hw⟩

/-- Rounds of a class pass a stretch of its characters. -/
theorem stretch_of_matches (hp : p = .many (.one is) ∨ p = .few (.one is)) (h : Matches p c d) :
    ∃ u, (∀ y ∈ u, is y = true) ∧ Passes u c d := by
  induction h with
  | manyStop | fewStop => exact ⟨[], by simp, .refl _⟩
  | manyMore h₁ _ _ ih | fewMore h₁ _ _ ih =>
      obtain ⟨u, hu, hpass⟩ := ih hp
      rcases hp with hp | hp <;> cases hp
      all_goals
        obtain ⟨x, hx, hone⟩ := matches_one_iff.mp h₁
        exact ⟨x :: u, List.forall_mem_cons.mpr ⟨hx, hu⟩, hone.trans hpass⟩
  | nothing | one | seq | left | right | group | wordEdge | lineStart => rcases hp with hp | hp <;> cases hp

theorem matches_many_one_iff : Matches (.many (.one is)) c d ↔ ∃ u, (∀ y ∈ u, is y = true) ∧ Passes u c d := by
  refine ⟨stretch_of_matches (.inl rfl), ?_⟩
  rintro ⟨u, hu, h⟩
  obtain ⟨before, rest, groups⟩ := c
  obtain rfl : rest = u ++ d.rest := h.rest_eq
  rw [h.eq]
  exact matches_many_one hu before d.rest

/-- What a lazy repetition of a class matches is what the greedy one matches. -/
theorem matches_few_one_iff : Matches (.few (.one is)) c d ↔ ∃ u, (∀ y ∈ u, is y = true) ∧ Passes u c d := by
  refine ⟨stretch_of_matches (.inr rfl), ?_⟩
  rintro ⟨u, hu, h⟩
  induction u generalizing c with
  | nil =>
      rw [h.eq_of_nil]
      exact .fewStop
  | cons y u ih =>
      obtain ⟨e, hone, hmore⟩ := Passes.split (u := [y]) h
      obtain ⟨hy, hu⟩ := List.forall_mem_cons.mp hu
      exact .fewMore (matches_one_iff.mpr ⟨y, hy, hone⟩) (ih hu hmore)

/-- At least one round. -/
theorem matches_some1_one_iff :
    Matches (some1 (.one is)) c d ↔ ∃ u, u ≠ [] ∧ (∀ y ∈ u, is y = true) ∧ Passes u c d := by
  rw [some1, matches_seq_iff]
  constructor
  · rintro ⟨e, hone, hmany⟩
    obtain ⟨x, hx, hone⟩ := matches_one_iff.mp hone
    obtain ⟨u, hu, hmany⟩ := matches_many_one_iff.mp hmany
    exact ⟨x :: u, List.cons_ne_nil _ _, List.forall_mem_cons.mpr ⟨hx, hu⟩, hone.trans hmany⟩
  · rintro ⟨u, hne, hu, h⟩
    obtain ⟨x, u, rfl⟩ := List.exists_cons_of_ne_nil hne
    obtain ⟨hx, hu⟩ := List.forall_mem_cons.mp hu
    obtain ⟨e, hone, hmany⟩ := Passes.split (u := [x]) h
    exact ⟨e, matches_one_iff.mpr ⟨x, hx, hone⟩, matches_many_one_iff.mpr ⟨u, hu, hmany⟩⟩

/-! ## Patterns side by side and one after another -/

theorem matches_any_iff : Matches (any ps) c d ↔ ∃ p ∈ ps, Matches p c d := by
  induction ps with
  | nil =>
      constructor
      · intro h
        obtain ⟨_, hno, _⟩ := matches_one_iff.mp h
        cases hno
      · rintro ⟨p, hp, _⟩
        cases hp
  | cons p ps ih =>
      cases ps with
      | nil => simp [any]
      | cons q ps =>
          rw [any, matches_alt_iff, ih]
          · simp
          · exact List.cons_ne_nil _ _

theorem matches_opt_iff : Matches (opt p) c d ↔ Matches p c d ∨ d = c := by
  rw [opt, matches_alt_iff, matches_nothing_iff]

theorem matches_all_nil_iff : Matches (all []) c d ↔ d = c := matches_nothing_iff

theorem matches_all_cons_iff :
    Matches (all (p :: ps)) c e ↔ ∃ d, Matches p c d ∧ Matches (all ps) d e := matches_seq_iff

theorem matches_all_append_iff {qs : List Pattern} :
    Matches (all (ps ++ qs)) c e ↔ ∃ d, Matches (all ps) c d ∧ Matches (all qs) d e := by
  induction ps generalizing c with
  | nil => simp [matches_all_nil_iff]
  | cons p ps ih =>
      simp only [List.cons_append, matches_all_cons_iff, ih]
      constructor
      · rintro ⟨d, hp, d', hps, hqs⟩
        exact ⟨d', ⟨d, hp, hps⟩, hqs⟩
      · rintro ⟨d', ⟨d, hp, hps⟩, hqs⟩
        exact ⟨d, hp, d', hps, hqs⟩

/-! ## The match that is found -/

/-- **A search goes on behind the longest stretch of a class that leads it to success.** -/
theorem longest_of_rounds {k : Cursor → Option α} {x : α} (h : rounds (run (.one is)) n c k = some x)
    (hn : c.rest.length ≤ n) :
    ∃ u d, Passes u c d ∧ (∀ y ∈ u, is y = true) ∧ k d = some x ∧
      ∀ w e, Passes w d e → w ≠ [] → (∀ y ∈ w, is y = true) → k e = none := by
  induction n generalizing c with
  | zero =>
      have hnil : c.rest = [] := List.length_eq_zero_iff.mp (Nat.le_zero.mp hn)
      refine ⟨[], c, .refl c, by simp, h, ?_⟩
      intro w e hw hne
      rw [hw.rest_eq] at hnil
      exact absurd (List.append_eq_nil_iff.mp hnil).1 hne
  | succ n ih =>
      unfold rounds at h
      split at h
      · -- one round more leads to success, and so does the longest stretch behind it
        rename_i a ha
        cases h
        obtain ⟨e, he, hk⟩ := matches_of_run ha
        obtain ⟨y, hy, hone⟩ := matches_one_iff.mp he
        split at hk
        · obtain ⟨u, d, hu, hclass, hx, hmax⟩ := ih hk (by omega)
          exact ⟨y :: u, d, hone.trans hu, List.forall_mem_cons.mpr ⟨hy, hclass⟩, hx, hmax⟩
        · cases hk
      · -- no stretch of one round or more leads to success
        rename_i hnone
        refine ⟨[], c, .refl c, by simp, h, ?_⟩
        intro w e hw hne hclass
        obtain ⟨y, w, rfl⟩ := List.exists_cons_of_ne_nil hne
        obtain ⟨hy, hclass⟩ := List.forall_mem_cons.mp hclass
        obtain ⟨d, hone, hmore⟩ := Passes.split (u := [y]) hw
        have hlength := congrArg List.length hone.rest_eq
        rw [List.length_append, List.length_singleton] at hlength
        refine Option.not_isSome_iff_eq_none.mp fun hsome => ?_
        have hrounds : (rounds (run (.one is)) n d k).isSome = true :=
          isSome_rounds (fun hm => isSome_run rfl hm) rfl (matches_many_one_iff.mpr ⟨w, hclass, hmore⟩) hsome
            (by omega)
        have hround : (run (.one is) c fun d => if d.rest.length < c.rest.length then
            rounds (run (.one is)) n d k else none).isSome = true := by
          refine isSome_run rfl (matches_one_iff.mpr ⟨y, hy, hone⟩) ?_
          rw [if_pos (by omega)]
          exact hrounds
        rw [hnone] at hround
        cases hround

/-- **A lazy search goes on behind the shortest stretch of a class that leads it to success.** -/
theorem shortest_of_fewRounds {k : Cursor → Option α} {x : α}
    (h : fewRounds (run (.one is)) n c k = some x) :
    ∃ u d, Passes u c d ∧ (∀ y ∈ u, is y = true) ∧ k d = some x ∧
      ∀ v w e, u = v ++ w → w ≠ [] → Passes v c e → k e = none := by
  have hstop {c : Cursor} (hk : k c = some x) : ∃ u d, Passes u c d ∧ (∀ y ∈ u, is y = true) ∧
      k d = some x ∧ ∀ v w e, u = v ++ w → w ≠ [] → Passes v c e → k e = none := by
    refine ⟨[], c, .refl c, by simp, hk, ?_⟩
    intro v w e hsplit hne
    exact absurd (List.append_eq_nil_iff.mp hsplit.symm).2 hne
  induction n generalizing c with
  | zero => exact hstop h
  | succ n ih =>
      unfold fewRounds at h
      split at h
      · rename_i a hk
        cases h
        exact hstop hk
      · -- the rest of the search fails here, so one round is taken
        rename_i hnone
        obtain ⟨d, hone, hmore⟩ := matches_of_run h
        obtain ⟨y, hy, hpass⟩ := matches_one_iff.mp hone
        split at hmore
        · obtain ⟨u, e, hu, hclass, hk, hmin⟩ := ih hmore
          refine ⟨y :: u, e, hpass.trans hu, List.forall_mem_cons.mpr ⟨hy, hclass⟩, hk, ?_⟩
          intro v w e' hsplit hne hv
          cases v with
          | nil => rw [hv.eq_of_nil, hnone]
          | cons z v =>
              obtain ⟨rfl, htail⟩ := List.cons.inj hsplit
              obtain ⟨d', hone', hv⟩ := Passes.split (u := [y]) hv
              exact hmin v w e' htail hne (hpass.unique hone' ▸ hv)
        · cases hmore

theorem matchAt_of_searchFrom (h : searchFrom p before s = some (f, d)) :
    ∃ before' rest, before.reverse ++ s = before'.reverse ++ rest ∧
      p.matchAt ⟨before', rest, []⟩ = some d ∧ f = ⟨before'.length, d.offset, d.groups⟩ := by
  induction s generalizing before with
  | nil =>
      unfold searchFrom at h
      obtain ⟨e, he, h⟩ := Option.map_eq_some_iff.mp h
      obtain ⟨rfl, rfl⟩ := Prod.mk.inj h
      exact ⟨before, [], rfl, he, rfl⟩
  | cons x s ih =>
      unfold searchFrom at h
      split at h
      · rename_i e he
        obtain ⟨rfl, rfl⟩ := Prod.mk.inj (Option.some.inj h)
        exact ⟨before, x :: s, rfl, he, rfl⟩
      · obtain ⟨before', rest, htext, hm, hf⟩ := ih h
        exact ⟨before', rest, by rw [← htext]; simp, hm, hf⟩

theorem matchAt_of_mem_findFrom (h : f ∈ findFrom p n before s) :
    ∃ before' rest d, before.reverse ++ s = before'.reverse ++ rest ∧
      p.matchAt ⟨before', rest, []⟩ = some d ∧ f = ⟨before'.length, d.offset, d.groups⟩ := by
  induction n generalizing before s with
  | zero => cases h
  | succ n ih =>
      unfold findFrom at h
      split at h
      · rename_i g e hs
        obtain ⟨_, _, _, htext⟩ := isMatch_of_searchFrom hs
        have hfirst := matchAt_of_searchFrom hs
        split at h
        · rcases List.mem_cons.mp h with rfl | h
          · obtain ⟨before', rest, ht, hm, hf⟩ := hfirst
            exact ⟨before', rest, e, ht, hm, hf⟩
          · obtain ⟨before', rest, d, ht, hm, hf⟩ := ih h
            exact ⟨before', rest, d, htext.symm.trans ht, hm, hf⟩
        · split at h
          · rename_i y r hrest
            rcases List.mem_cons.mp h with rfl | h
            · obtain ⟨before', rest, ht, hm, hf⟩ := hfirst
              exact ⟨before', rest, e, ht, hm, hf⟩
            · obtain ⟨before', rest, d, ht, hm, hf⟩ := ih h
              refine ⟨before', rest, d, ?_, hm, hf⟩
              rw [← ht, ← htext, Cursor.text, hrest]
              simp
          · obtain rfl := List.mem_singleton.mp h
            obtain ⟨before', rest, ht, hm, hf⟩ := hfirst
            exact ⟨before', rest, e, ht, hm, hf⟩
      · cases h

/-- **Each match of a text is the one that a search finds at its start.** -/
theorem matchAt_of_mem_findAll (h : f ∈ p.findAll s) :
    ∃ a t d, s = a ++ t ∧ p.matchAt ⟨a.reverse, t, []⟩ = some d ∧ f = ⟨a.length, d.offset, d.groups⟩ := by
  obtain ⟨before, rest, d, hs, hm, rfl⟩ := matchAt_of_mem_findFrom h
  exact ⟨before.reverse, rest, d, hs, by rwa [List.reverse_reverse], by rw [List.length_reverse]⟩

/-- A match of a text is a way to match at its start. -/
theorem matches_of_mem_findAll (h : f ∈ p.findAll s) :
    ∃ a t d, s = a ++ t ∧ Matches p ⟨a.reverse, t, []⟩ d ∧ f = ⟨a.length, d.offset, d.groups⟩ := by
  obtain ⟨a, t, d, hs, hm, hf⟩ := matchAt_of_mem_findAll h
  obtain ⟨e, hmatch, he⟩ := matches_of_run hm
  cases he
  exact ⟨a, t, d, hs, hmatch, hf⟩

/-- A text has one first character of a class. -/
theorem eq_of_first {x y : Char} (hu : ∀ z ∈ u, is z = false) (hv : ∀ z ∈ v, is z = false)
    (hx : is x = true) (hy : is y = true) (h : u ++ x :: s = v ++ y :: w) : u = v ∧ s = w := by
  have hfind : u = v := by
    have hleft : (u ++ x :: s).takeWhile (!is ·) = u := by
      rw [List.takeWhile_append_of_pos fun z hz => by simp [hu z hz], List.takeWhile_cons_of_neg (by simp [hx]),
        List.append_nil]
    have hright : (v ++ y :: w).takeWhile (!is ·) = v := by
      rw [List.takeWhile_append_of_pos fun z hz => by simp [hv z hz], List.takeWhile_cons_of_neg (by simp [hy]),
        List.append_nil]
    rw [← hleft, h, hright]
  subst hfind
  exact ⟨rfl, (List.cons.inj (List.append_cancel_left h)).2⟩

/-- The longer of two starts of a text goes on behind the shorter. -/
theorem exists_append_of_le {a b t : List Char} (h : a ++ s = b ++ t) (hle : b.length ≤ a.length) :
    ∃ z, a = b ++ z ∧ z ++ s = t := by
  obtain ⟨z, rfl⟩ := List.prefix_of_prefix_length_le ⟨t, h.symm⟩ (List.prefix_append a s) hle
  exact ⟨z, rfl, List.append_cancel_left (by rw [← List.append_assoc, h])⟩

/-- The stretch between the ends of a text within another. -/
theorem stretch_append (u v w : List Char) : stretch (u ++ (v ++ w)) u.length (u.length + v.length) = v := by
  rw [stretch, List.drop_left, Nat.add_sub_cancel_left, List.take_left]

/-- Where a pattern can match, a match begins, or one goes on that began before. -/
theorem exists_mem_findAll_at {a t : List Char} (hp : p.isSteady = true)
    (h : Matches p ⟨a.reverse, t, []⟩ d) :
    ∃ f ∈ p.findAll (a ++ t), f.start ≤ a.length ∧ (a.length < f.stop ∨ f.start = a.length) := by
  simpa [Cursor.text, Cursor.offset] using exists_mem_findAll hp h rfl

end AppMend.Text.Pattern
