import AppMend.Text.Pattern

/-!
# What a search finds

A search for a pattern tries the ways to match in an order of its own. For what holds of every match
the order does not matter: `Pattern.Matches` says from where to where a pattern can match at all, and
whatever `Pattern.run` finds is among these ways (`matches_of_run`). The matches of a text are such
ways, from left to right, none overlapping another (`match_of_mem_findAll`, `disjoint_of_mem_findAll`).

A pattern may not tell two characters apart. Then texts that differ in nothing else have the same
matches, at the same offsets (`findAll_alike`). That is what a repair needs that writes the one for the
other: its result is searched like the text it began with.
-/

namespace AppMend.Text.Pattern

variable {α β : Type} {p a b : Pattern} {c d e : Cursor} {f g : Found} {before s t : List Char}

/-! ## The ways to match -/

/-- A pattern can match from one cursor to another. -/
inductive Matches : Pattern → Cursor → Cursor → Prop where
  | nothing {c : Cursor} : Matches .nothing c c
  | one {is : Char → Bool} {x : Char} {before rest : List Char} {groups : List (Nat × Nat × Nat)} :
      is x = true → Matches (.one is) ⟨before, x :: rest, groups⟩ ⟨x :: before, rest, groups⟩
  | seq {a b : Pattern} {c d e : Cursor} : Matches a c d → Matches b d e → Matches (.seq a b) c e
  | left {a b : Pattern} {c d : Cursor} : Matches a c d → Matches (.alt a b) c d
  | right {a b : Pattern} {c d : Cursor} : Matches b c d → Matches (.alt a b) c d
  | manyStop {a : Pattern} {c : Cursor} : Matches (.many a) c c
  | manyMore {a : Pattern} {c d e : Cursor} :
      Matches a c d → Matches (.many a) d e → Matches (.many a) c e
  | fewStop {a : Pattern} {c : Cursor} : Matches (.few a) c c
  | fewMore {a : Pattern} {c d e : Cursor} :
      Matches a c d → Matches (.few a) d e → Matches (.few a) c e
  | group {i : Nat} {a : Pattern} {c d : Cursor} : Matches a c d →
      Matches (.group i a) c { d with groups := (i, c.offset, d.offset) :: d.groups }
  | wordEdge {c : Cursor} : c.atWordEdge = true → Matches .wordEdge c c
  | lineStart {c : Cursor} : c.atLineStart = true → Matches .lineStart c c

theorem matches_of_rounds
    (ih : ∀ {c : Cursor} {k : Cursor → Option α} {x : α}, run p c k = some x →
      ∃ d, Matches p c d ∧ k d = some x)
    {n : Nat} {k : Cursor → Option α} {x : α} (h : rounds (run p) n c k = some x) :
    ∃ d, Matches (.many p) c d ∧ k d = some x := by
  -- on the rounds that are left; `ih` is about one round
  induction n generalizing c with
  | zero => exact ⟨c, .manyStop, h⟩
  | succ n ihn =>
      unfold rounds at h
      split at h
      · rename_i y hy
        cases h
        obtain ⟨d, hd, hk⟩ := ih hy
        split at hk
        · obtain ⟨e, he, hk⟩ := ihn hk
          exact ⟨e, .manyMore hd he, hk⟩
        · cases hk
      · exact ⟨c, .manyStop, h⟩

theorem matches_of_fewRounds
    (ih : ∀ {c : Cursor} {k : Cursor → Option α} {x : α}, run p c k = some x →
      ∃ d, Matches p c d ∧ k d = some x)
    {n : Nat} {k : Cursor → Option α} {x : α} (h : fewRounds (run p) n c k = some x) :
    ∃ d, Matches (.few p) c d ∧ k d = some x := by
  induction n generalizing c with
  | zero => exact ⟨c, .fewStop, h⟩
  | succ n ihn =>
      unfold fewRounds at h
      split at h
      · rename_i y hy
        exact ⟨c, .fewStop, by rw [hy, h]⟩
      · obtain ⟨d, hd, hk⟩ := ih h
        split at hk
        · obtain ⟨e, he, hk⟩ := ihn hk
          exact ⟨e, .fewMore hd he, hk⟩
        · cases hk

/-- **A search that succeeds went on from where the pattern can match.** -/
theorem matches_of_run {k : Cursor → Option α} {x : α} (h : run p c k = some x) :
    ∃ d, Matches p c d ∧ k d = some x := by
  induction p generalizing c k x with
  | nothing => exact ⟨c, .nothing, h⟩
  | one is =>
      obtain ⟨before, rest, groups⟩ := c
      cases rest with
      | nil => cases h
      | cons y rest =>
          unfold run at h
          dsimp only at h
          split at h
          · rename_i hy
            exact ⟨_, .one hy, h⟩
          · cases h
  | seq a b iha ihb =>
      obtain ⟨d, hd, hk⟩ := iha h
      obtain ⟨e, he, hk⟩ := ihb hk
      exact ⟨e, .seq hd he, hk⟩
  | alt a b iha ihb =>
      unfold run at h
      split at h
      · rename_i y hy
        obtain ⟨d, hd, hk⟩ := iha hy
        exact ⟨d, .left hd, by rw [hk, h]⟩
      · obtain ⟨d, hd, hk⟩ := ihb h
        exact ⟨d, .right hd, hk⟩
  | many a ih => exact matches_of_rounds ih h
  | few a ih => exact matches_of_fewRounds ih h
  | group i a ih =>
      obtain ⟨d, hd, hk⟩ := ih h
      exact ⟨_, .group hd, hk⟩
  | wordEdge =>
      unfold run at h
      split at h
      · rename_i hc
        exact ⟨c, .wordEdge hc, h⟩
      · cases h
  | lineStart =>
      unfold run at h
      split at h
      · rename_i hc
        exact ⟨c, .lineStart hc, h⟩
      · cases h

/-! ## What a match passes -/

/-- The text that a cursor stands in. -/
def Cursor.text (c : Cursor) : List Char := c.before.reverse ++ c.rest

/-- A match passes a stretch of the text. -/
theorem Matches.passes (h : Matches p c d) :
    ∃ u, d.before = u.reverse ++ c.before ∧ c.rest = u ++ d.rest := by
  induction h with
  | nothing | manyStop | fewStop | wordEdge | lineStart => exact ⟨[], rfl, rfl⟩
  | @one _ x => exact ⟨[x], rfl, rfl⟩
  | left _ ih | right _ ih | group _ ih => exact ih
  | seq _ _ ih₁ ih₂ | manyMore _ _ ih₁ ih₂ | fewMore _ _ ih₁ ih₂ =>
      obtain ⟨u, hu, hu'⟩ := ih₁
      obtain ⟨v, hv, hv'⟩ := ih₂
      exact ⟨u ++ v, by rw [hv, hu]; simp, by rw [hu', hv']; simp⟩

theorem Matches.text_eq (h : Matches p c d) : d.text = c.text := by
  obtain ⟨u, hu, hu'⟩ := h.passes
  rw [Cursor.text, Cursor.text, hu, hu']
  simp

theorem Matches.offset_le (h : Matches p c d) : c.offset ≤ d.offset := by
  obtain ⟨u, hu, _⟩ := h.passes
  rw [Cursor.offset, Cursor.offset, hu, List.length_append]
  exact Nat.le_add_left _ _

theorem Matches.of_seq (h : Matches (.seq a b) c e) : ∃ d, Matches a c d ∧ Matches b d e := by
  cases h with
  | seq ha hb => exact ⟨_, ha, hb⟩

theorem Matches.of_group {i : Nat} (h : Matches (.group i a) c e) :
    ∃ d, Matches a c d ∧ e.offset = d.offset ∧ e.groups = (i, c.offset, d.offset) :: d.groups := by
  cases h with
  | group ha => exact ⟨_, ha, rfl, rfl⟩

/-- A match of one character. -/
theorem Matches.of_one {is : Char → Bool} (h : Matches (.one is) c d) :
    d.offset = c.offset + 1 ∧ d.groups = c.groups ∧ ∃ x, c.text[c.offset]? = some x ∧ is x = true := by
  cases h with
  | @one _ x before rest groups hx =>
      refine ⟨rfl, rfl, x, ?_, hx⟩
      show (before.reverse ++ x :: rest)[before.length]? = some x
      rw [← List.length_reverse, List.getElem?_append_right (Nat.le_refl _), Nat.sub_self]
      rfl

/-- A match of the start of a line passes nothing, and a line feed stands before it. -/
theorem Matches.of_lineStart (h : Matches .lineStart c d) :
    d = c ∧ (c.offset = 0 ∨ c.text[c.offset - 1]? = some '\n') := by
  cases h with
  | lineStart hc =>
      refine ⟨rfl, ?_⟩
      obtain ⟨before, rest, groups⟩ := c
      cases before with
      | nil => exact .inl rfl
      | cons x before =>
          have hx : x = '\n' := eq_of_beq hc
          refine .inr ?_
          show ((x :: before).reverse ++ rest)[before.length]? = some '\n'
          simp [hx]

/-- No class of the pattern has a character. -/
def avoids (x : Char) : Pattern → Bool
  | nothing | wordEdge | lineStart => true
  | one is => !is x
  | seq a b | alt a b => a.avoids x && b.avoids x
  | many a | few a | group _ a => a.avoids x

/-- A match does not pass a character that its pattern avoids. -/
theorem Matches.ne_of_avoids {x : Char} {i : Nat} (h : Matches p c d) (hp : p.avoids x = true)
    (hi : c.offset ≤ i) (hid : i < d.offset) : c.text[i]? ≠ some x := by
  -- of two matches, one after the other, one passes the place
  have either {p : Pattern} {c d e : Cursor} (h : Matches p c d)
      (h₁ : c.offset ≤ i → i < d.offset → c.text[i]? ≠ some x)
      (h₂ : d.offset ≤ i → i < e.offset → d.text[i]? ≠ some x)
      (hi : c.offset ≤ i) (hie : i < e.offset) : c.text[i]? ≠ some x := by
    by_cases hid : i < d.offset
    · exact h₁ hi hid
    · rw [← h.text_eq]
      exact h₂ (Nat.le_of_not_lt hid) hie
  induction h with
  | nothing | manyStop | fewStop | wordEdge | lineStart => exact absurd hid (Nat.not_lt.mpr hi)
  | one hy =>
      obtain ⟨hnext, _, y, hget, hclass⟩ := (Matches.one hy).of_one
      rw [hnext] at hid
      rw [show i = _ from Nat.le_antisymm (Nat.le_of_lt_succ hid) hi, hget]
      rintro ⟨rfl⟩
      rw [avoids, hclass] at hp
      cases hp
  | seq h _ ih₁ ih₂ =>
      obtain ⟨ha, hb⟩ := Bool.and_eq_true_iff.mp hp
      exact either h (ih₁ ha) (ih₂ hb) hi hid
  | left _ ih => exact ih (Bool.and_eq_true_iff.mp hp).1 hi hid
  | right _ ih => exact ih (Bool.and_eq_true_iff.mp hp).2 hi hid
  | manyMore h _ ih₁ ih₂ | fewMore h _ ih₁ ih₂ => exact either h (ih₁ hp) (ih₂ hp) hi hid
  | group _ ih => exact ih hp hi hid

def hasGroup : Pattern → Bool
  | nothing | one _ | wordEdge | lineStart => false
  | seq a b | alt a b => a.hasGroup || b.hasGroup
  | many a | few a => a.hasGroup
  | group _ _ => true

/-- A pattern without groups remembers nothing. -/
theorem Matches.groups_eq (h : Matches p c d) (hp : p.hasGroup = false) : d.groups = c.groups := by
  induction h with
  | nothing | one | manyStop | fewStop | wordEdge | lineStart => rfl
  | seq _ _ ih₁ ih₂ =>
      obtain ⟨h₁, h₂⟩ := Bool.or_eq_false_iff.mp hp
      rw [ih₂ h₂, ih₁ h₁]
  | left _ ih => exact ih (Bool.or_eq_false_iff.mp hp).1
  | right _ ih => exact ih (Bool.or_eq_false_iff.mp hp).2
  | manyMore _ _ ih₁ ih₂ | fewMore _ _ ih₁ ih₂ => rw [ih₂ hp, ih₁ hp]
  | group => cases hp

/-! ## The matches of a text -/

/-- What a match of a text is: a way to match somewhere in it. -/
def IsMatch (p : Pattern) (s : List Char) (f : Found) : Prop :=
  ∃ c d, Matches p c d ∧ c.text = s ∧ c.groups = [] ∧ f = ⟨c.offset, d.offset, d.groups⟩

theorem IsMatch.start_le (h : IsMatch p s f) : f.start ≤ f.stop := by
  obtain ⟨c, d, hm, _, _, rfl⟩ := h
  exact hm.offset_le

theorem isMatch_of_searchFrom (h : searchFrom p before s = some (f, d)) :
    IsMatch p (before.reverse ++ s) f ∧ before.length ≤ f.start ∧ d.offset = f.stop ∧
      d.text = before.reverse ++ s := by
  induction s generalizing before with
  | nil =>
      unfold searchFrom at h
      obtain ⟨e, he, h⟩ := Option.map_eq_some_iff.mp h
      obtain ⟨rfl, rfl⟩ := Prod.mk.inj h
      obtain ⟨e', hm, he'⟩ := matches_of_run he
      cases he'
      exact ⟨⟨_, _, hm, rfl, rfl, rfl⟩, Nat.le_refl _, rfl, hm.text_eq⟩
  | cons x s ih =>
      unfold searchFrom at h
      split at h
      · rename_i e he
        obtain ⟨rfl, rfl⟩ := Prod.mk.inj (Option.some.inj h)
        obtain ⟨e', hm, he'⟩ := matches_of_run he
        cases he'
        exact ⟨⟨_, _, hm, rfl, rfl, rfl⟩, Nat.le_refl _, rfl, hm.text_eq⟩
      · obtain ⟨hm, hle, hoff, htext⟩ := ih h
        have he : (x :: before).reverse ++ s = before.reverse ++ x :: s := by simp
        rw [he] at hm htext
        exact ⟨hm, Nat.le_of_succ_le hle, hoff, htext⟩

/-- The matches from a place on are matches of the whole text, none before the place and none overlapping
another. -/
theorem isMatch_of_findFrom (n : Nat) (before s : List Char) :
    (∀ f ∈ findFrom p n before s, IsMatch p (before.reverse ++ s) f ∧ before.length ≤ f.start) ∧
      (findFrom p n before s).Pairwise fun f g => f.stop ≤ g.start := by
  induction n generalizing before s with
  | zero => exact ⟨fun f hf => (by cases hf), .nil⟩
  | succ n ih =>
      -- the search goes on behind the first match
      have next {f : Found} {before' rest : List Char}
          (hm : IsMatch p (before.reverse ++ s) f) (hle : before.length ≤ f.start)
          (hstop : f.stop ≤ before'.length) (htext : before'.reverse ++ rest = before.reverse ++ s) :
          (∀ g ∈ f :: findFrom p n before' rest,
            IsMatch p (before.reverse ++ s) g ∧ before.length ≤ g.start) ∧
            (f :: findFrom p n before' rest).Pairwise fun f g => f.stop ≤ g.start := by
        obtain ⟨hall, hpair⟩ := ih before' rest
        rw [htext] at hall
        refine ⟨?_, List.pairwise_cons.mpr ⟨?_, hpair⟩⟩
        · intro g hg
          rcases List.mem_cons.mp hg with rfl | hg
          · exact ⟨hm, hle⟩
          · have := hm.start_le
            exact ⟨(hall g hg).1, by have := (hall g hg).2; omega⟩
        · intro g hg
          exact Nat.le_trans hstop (hall g hg).2
      unfold findFrom
      split
      · rename_i f d hs
        obtain ⟨hm, hle, hoff, htext⟩ := isMatch_of_searchFrom hs
        split
        · exact next hm hle (Nat.le_of_eq hoff.symm) htext
        · split
          · rename_i y rest hrest
            refine next hm hle ?_ ?_
            · rw [List.length_cons, ← hoff]
              exact Nat.le_succ _
            · rw [← htext, Cursor.text, hrest]
              simp
          · exact ⟨fun g hg => List.mem_singleton.mp hg ▸ ⟨hm, hle⟩, List.pairwise_singleton _ _⟩
      · exact ⟨fun f hf => (by cases hf), .nil⟩

/-- **The matches of a text are ways to match in it.** -/
theorem isMatch_of_mem_findAll (h : f ∈ p.findAll s) : IsMatch p s f :=
  ((isMatch_of_findFrom (s.length + 1) [] s).1 f h).1

/-- The matches of a text stand from left to right, each behind the one before. -/
theorem pairwise_findAll (p : Pattern) (s : List Char) :
    (p.findAll s).Pairwise fun f g => f.stop ≤ g.start :=
  (isMatch_of_findFrom (s.length + 1) [] s).2

/-- **No match of a text overlaps another.** -/
theorem disjoint_of_mem_findAll (hf : f ∈ p.findAll s) (hg : g ∈ p.findAll s) (hne : f ≠ g) :
    f.stop ≤ g.start ∨ g.stop ≤ f.start := by
  have hpair := List.pairwise_iff_getElem.mp (pairwise_findAll p s)
  -- the one that was found first lies before the other
  obtain ⟨i, hi, rfl⟩ := List.getElem_of_mem hf
  obtain ⟨j, hj, rfl⟩ := List.getElem_of_mem hg
  rcases Nat.lt_trichotomy i j with hij | rfl | hij
  · exact .inl (hpair i j hi hj hij)
  · exact absurd rfl hne
  · exact .inr (hpair j i hj hi hij)

/-! ## Characters that a pattern does not tell apart -/

/-- No class of the pattern tells two characters apart. -/
def confuses (x y : Char) : Pattern → Bool
  | nothing | wordEdge | lineStart => true
  | one is => is x == is y
  | seq a b | alt a b => a.confuses x y && b.confuses x y
  | many a | few a | group _ a => a.confuses x y

/-- Writes one character for another. -/
def unify (x y z : Char) : Char := if z = y then x else z

section Alike

variable {x y : Char}

/-- Cursors at the same place of texts that differ in nothing but the two characters. -/
structure Alike (x y : Char) (c d : Cursor) : Prop where
  before : c.before.map (unify x y) = d.before.map (unify x y)
  rest : c.rest.map (unify x y) = d.rest.map (unify x y)
  groups : c.groups = d.groups

theorem Alike.offset_eq (h : Alike x y c d) : c.offset = d.offset := by
  have := congrArg List.length h.before
  rwa [List.length_map, List.length_map] at this

theorem Alike.length_eq (h : Alike x y c d) : c.rest.length = d.rest.length := by
  have := congrArg List.length h.rest
  rwa [List.length_map, List.length_map] at this

/-- What does not tell the characters apart tells alike characters nothing else. -/
theorem eq_of_unify_eq {γ : Type} {is : Char → γ} (h : is x = is y) {u v : Char}
    (huv : unify x y u = unify x y v) : is u = is v := by
  have unified (z : Char) : is (unify x y z) = is z := by
    unfold unify
    split
    · rename_i hz
      rw [hz, h]
    · rfl
  rw [← unified u, huv, unified v]

theorem head?_of_map_eq {γ : Type} (is : Char → γ) (h : is x = is y)
    (hst : s.map (unify x y) = t.map (unify x y)) : s.head?.map is = t.head?.map is := by
  cases s with
  | nil =>
      cases t with
      | nil => rfl
      | cons => cases hst
  | cons u s =>
      cases t with
      | nil => cases hst
      | cons v t => exact congrArg some (eq_of_unify_eq h (List.cons.inj hst).1)

theorem Alike.atWordEdge_eq (h : Alike x y c d) (hw : isWord x = isWord y) :
    c.atWordEdge = d.atWordEdge := by
  rw [Cursor.atWordEdge, Cursor.atWordEdge, head?_of_map_eq _ hw h.before, head?_of_map_eq _ hw h.rest]

theorem Alike.atLineStart_eq (h : Alike x y c d) (hl : (x == '\n') = (y == '\n')) :
    c.atLineStart = d.atLineStart := by
  have := head?_of_map_eq (· == '\n') hl h.before
  unfold Cursor.atLineStart
  cases hc : c.before <;> cases hd : d.before <;> rw [hc, hd] at this
  · cases this
  · cases this
  · exact Option.some.inj this

/-- The characters are alike for the tests of the place too. -/
structure Kin (x y : Char) : Prop where
  word : isWord x = isWord y
  feed : (x == '\n') = (y == '\n')

variable {R : α → β → Prop} {k : Cursor → Option α} {l : Cursor → Option β}

theorem rel_or {o e : Option α} {o' e' : Option β} :
    Option.Rel R o o' → Option.Rel R e e' →
      Option.Rel R (match o with | some z => some z | none => e)
        (match o' with | some z => some z | none => e') := by
  intro h he
  cases h with
  | some h => exact .some h
  | none => exact he

theorem rounds_alike
    (ih : ∀ {c d : Cursor} {k : Cursor → Option α} {l : Cursor → Option β},
      (∀ c d, Alike x y c d → Option.Rel R (k c) (l d)) → Alike x y c d →
      Option.Rel R (run p c k) (run p d l)) {n : Nat}
    (hk : ∀ c d, Alike x y c d → Option.Rel R (k c) (l d)) (hc : Alike x y c d) :
    Option.Rel R (rounds (run p) n c k) (rounds (run p) n d l) := by
  induction n generalizing c d with
  | zero => exact hk c d hc
  | succ n ihn =>
      unfold rounds
      refine rel_or (ih (fun c' d' hc' => ?_) hc) (hk c d hc)
      rw [hc.length_eq, hc'.length_eq]
      split
      · exact ihn hc'
      · exact .none

theorem fewRounds_alike
    (ih : ∀ {c d : Cursor} {k : Cursor → Option α} {l : Cursor → Option β},
      (∀ c d, Alike x y c d → Option.Rel R (k c) (l d)) → Alike x y c d →
      Option.Rel R (run p c k) (run p d l)) {n : Nat}
    (hk : ∀ c d, Alike x y c d → Option.Rel R (k c) (l d)) (hc : Alike x y c d) :
    Option.Rel R (fewRounds (run p) n c k) (fewRounds (run p) n d l) := by
  induction n generalizing c d with
  | zero => exact hk c d hc
  | succ n ihn =>
      unfold fewRounds
      refine rel_or (hk c d hc) (ih (fun c' d' hc' => ?_) hc)
      rw [hc.length_eq, hc'.length_eq]
      split
      · exact ihn hc'
      · exact .none

/-- **A search in texts that are alike goes the same way.** -/
theorem run_alike (hxy : Kin x y) (hp : p.confuses x y = true)
    (hk : ∀ c d, Alike x y c d → Option.Rel R (k c) (l d)) (hc : Alike x y c d) :
    Option.Rel R (run p c k) (run p d l) := by
  induction p generalizing c d k l with
  | nothing => exact hk c d hc
  | one is =>
      have his : is x = is y := eq_of_beq hp
      have hhead := head?_of_map_eq is his hc.rest
      obtain ⟨before, rest, groups⟩ := c
      obtain ⟨before', rest', groups'⟩ := d
      cases rest with
      | nil =>
          cases rest' with
          | nil => exact .none
          | cons => cases hhead
      | cons u rest =>
          cases rest' with
          | nil => cases hhead
          | cons v rest' =>
              have huv : is u = is v := Option.some.inj hhead
              obtain ⟨hu, hrest⟩ := List.cons.inj hc.rest
              unfold run
              dsimp only
              rw [huv]
              split
              · refine hk _ _ ⟨?_, hrest, hc.groups⟩
                show (u :: before).map (unify x y) = (v :: before').map (unify x y)
                rw [List.map_cons, List.map_cons, hc.before, hu]
              · exact .none
  | seq a b iha ihb =>
      obtain ⟨ha, hb⟩ := Bool.and_eq_true_iff.mp hp
      exact iha ha (fun c d hc => ihb hb hk hc) hc
  | alt a b iha ihb =>
      obtain ⟨ha, hb⟩ := Bool.and_eq_true_iff.mp hp
      exact rel_or (iha ha hk hc) (ihb hb hk hc)
  | many a ih =>
      unfold run
      rw [hc.length_eq]
      exact rounds_alike (ih hp) hk hc
  | few a ih =>
      unfold run
      rw [hc.length_eq]
      exact fewRounds_alike (ih hp) hk hc
  | group i a ih =>
      -- what is remembered of a group are offsets, and these are alike
      refine ih hp (fun c' d' hc' => hk _ _ ⟨hc'.before, hc'.rest, ?_⟩) hc
      rw [hc.offset_eq, hc'.offset_eq, hc'.groups]
  | wordEdge =>
      unfold run
      rw [hc.atWordEdge_eq hxy.word]
      split
      · exact hk c d hc
      · exact .none
  | lineStart =>
      unfold run
      rw [hc.atLineStart_eq hxy.feed]
      split
      · exact hk c d hc
      · exact .none

/-! ## The matches of texts that are alike -/

/-- The results of two searches: the same match, and alike cursors behind it. -/
abbrev SameMatch (x y : Char) (r q : Found × Cursor) : Prop := r.1 = q.1 ∧ Alike x y r.2 q.2

theorem searchFrom_alike (hxy : Kin x y) (hp : p.confuses x y = true) {before' : List Char}
    (hb : before.map (unify x y) = before'.map (unify x y))
    (hs : s.map (unify x y) = t.map (unify x y)) :
    Option.Rel (SameMatch x y) (searchFrom p before s) (searchFrom p before' t) := by
  have hmatch {c d : Cursor} (hc : Alike x y c d) :
      Option.Rel (Alike x y) (p.matchAt c) (p.matchAt d) :=
    run_alike hxy hp (fun _ _ h => .some h) ⟨hc.before, hc.rest, rfl⟩
  -- what is told of a match are lengths, and alike texts have the same ones
  have hlength {before before' : List Char} (hb : before.map (unify x y) = before'.map (unify x y)) :
      before.length = before'.length := by
    have := congrArg List.length hb
    rwa [List.length_map, List.length_map] at this
  have hfound {c d e e' : Cursor} (hc : Alike x y c d) (he : Alike x y e e') :
      SameMatch x y (⟨c.before.length, e.offset, e.groups⟩, e)
        (⟨d.before.length, e'.offset, e'.groups⟩, e') :=
    ⟨by rw [hlength hc.before, he.offset_eq, he.groups], he⟩
  induction s generalizing t before before' with
  | nil =>
      cases t with
      | cons => cases hs
      | nil =>
          have hc : Alike x y ⟨before, [], []⟩ ⟨before', [], []⟩ := ⟨hb, rfl, rfl⟩
          have hm := hmatch hc
          unfold searchFrom
          generalize p.matchAt ⟨before, [], []⟩ = o at hm ⊢
          generalize p.matchAt ⟨before', [], []⟩ = o' at hm ⊢
          cases hm with
          | some he => exact .some (hfound hc he)
          | none => exact .none
  | cons u s ih =>
      cases t with
      | nil => cases hs
      | cons v t =>
          obtain ⟨huv, hs'⟩ := List.cons.inj hs
          have hc : Alike x y ⟨before, u :: s, []⟩ ⟨before', v :: t, []⟩ := ⟨hb, hs, rfl⟩
          have hm := hmatch hc
          unfold searchFrom
          generalize p.matchAt ⟨before, u :: s, []⟩ = o at hm ⊢
          generalize p.matchAt ⟨before', v :: t, []⟩ = o' at hm ⊢
          cases hm with
          | some he => exact .some (hfound hc he)
          | none => exact ih (by rw [List.map_cons, List.map_cons, huv, hb]) hs'

theorem findFrom_alike (hxy : Kin x y) (hp : p.confuses x y = true) {n : Nat}
    {before before' s t : List Char} (hb : before.map (unify x y) = before'.map (unify x y))
    (hs : s.map (unify x y) = t.map (unify x y)) :
    findFrom p n before s = findFrom p n before' t := by
  induction n generalizing before before' s t with
  | zero => rfl
  | succ n ih =>
      have hm := searchFrom_alike hxy hp hb hs
      unfold findFrom
      generalize searchFrom p before s = o at hm ⊢
      generalize searchFrom p before' t = o' at hm ⊢
      cases hm with
      | none => rfl
      | @some r q hrq =>
          obtain ⟨f, d⟩ := r
          obtain ⟨g, e⟩ := q
          obtain ⟨rfl, hd⟩ := hrq
          dsimp only
          split
          · rw [ih hd.before hd.rest]
          · -- behind an empty match the search goes on one character later in both texts
            have hrest := hd.rest
            cases hdr : d.rest with
            | nil =>
                cases her : e.rest with
                | nil => rfl
                | cons => rw [hdr, her] at hrest; cases hrest
            | cons u r =>
                cases her : e.rest with
                | nil => rw [hdr, her] at hrest; cases hrest
                | cons v r' =>
                    rw [hdr, her] at hrest
                    obtain ⟨huv, hrest⟩ := List.cons.inj hrest
                    have hbefore : (u :: d.before).map (unify x y) = (v :: e.before).map (unify x y) := by
                      rw [List.map_cons, List.map_cons, huv, hd.before]
                    dsimp only
                    rw [ih hbefore hrest]

/-- **Texts that differ in nothing but characters that a pattern confuses have the same matches.** -/
theorem findAll_alike (hxy : Kin x y) (hp : p.confuses x y = true)
    (hs : s.map (unify x y) = t.map (unify x y)) : p.findAll s = p.findAll t := by
  have hl : s.length = t.length := by
    have := congrArg List.length hs
    rwa [List.length_map, List.length_map] at this
  unfold findAll
  rw [hl]
  exact findFrom_alike hxy hp rfl hs

end Alike

end AppMend.Text.Pattern
