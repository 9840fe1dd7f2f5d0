import AppMend.Proofs.Text.Pattern

/-!
# A search finds what can match

`Pattern.Matches` says how a pattern can match, and a search is no worse than that: if there is a way that
the rest of the search accepts, it finds one (`isSome_run`). It does not try rounds that pass nothing,
but such a round leaves the cursor where it was, as long as nothing is remembered in it; so only patterns
without groups may be repeated (`isSteady`).

A text is searched from the left, and behind each match again. So no place is passed over where the
pattern can match: a match begins there, or one that began before goes beyond it (`exists_mem_findAll`).
-/

namespace AppMend.Text.Pattern

variable {α : Type} {p : Pattern} {c d e : Cursor} {k : Cursor → Option α} {f : Found}
  {before s : List Char} {n : Nat}

/-! ## Ways to match are found -/

/-- Whether nothing is remembered in rounds. -/
def isSteady : Pattern → Bool
  | nothing | one _ | wordEdge | lineStart => true
  | seq a b | alt a b => a.isSteady && b.isSteady
  | many a | few a => a.isSteady && !a.hasGroup
  | group _ a => a.isSteady

theorem Cursor.length_text (c : Cursor) : c.text.length = c.offset + c.rest.length := by
  rw [Cursor.text, List.length_append, List.length_reverse, Cursor.offset]

/-- A match that passes and remembers nothing leaves the cursor where it was. -/
theorem Matches.eq_of_length_le (h : Matches p c d) (hp : p.hasGroup = false)
    (hl : c.rest.length ≤ d.rest.length) : d = c := by
  obtain ⟨u, hbefore, hrest⟩ := h.passes
  have hu : u = [] := by
    have := congrArg List.length hrest
    rw [List.length_append] at this
    exact List.length_eq_zero_iff.mp (by omega)
  rw [hu] at hbefore hrest
  have hgroups := h.groups_eq hp
  obtain ⟨before, rest, groups⟩ := d
  simp only [List.reverse_nil, List.nil_append] at hbefore hrest hgroups
  rw [hbefore, ← hrest, hgroups]

/-- Every way to match by rounds is found if every way to match in one round is. -/
theorem isSome_rounds
    (ih : ∀ {c d : Cursor} {k : Cursor → Option α}, Matches p c d → (k d).isSome = true →
      (run p c k).isSome = true)
    (hp : p.hasGroup = false) (h : Matches (.many p) c e) (hk : (k e).isSome = true)
    (hn : c.rest.length ≤ n) : (rounds (run p) n c k).isSome = true := by
  generalize hq : Pattern.many p = q at h
  induction h generalizing n with
  | manyStop =>
      cases n with
      | zero => exact hk
      | succ n =>
          unfold rounds
          split
          · rfl
          · exact hk
  | @manyMore a c d e h₁ _ _ ih₂ =>
      cases hq
      by_cases hl : d.rest.length < c.rest.length
      · obtain ⟨n, rfl⟩ := Nat.exists_eq_add_one_of_ne_zero (n := n) (by omega)
        have hround : (run p c fun d =>
            if d.rest.length < c.rest.length then rounds (run p) n d k else none).isSome = true := by
          refine ih h₁ ?_
          rw [if_pos hl]
          exact ih₂ hk (by omega) rfl
        unfold rounds
        split
        · rfl
        · rename_i hnone
          rw [hnone] at hround
          cases hround
      · -- a round that passes nothing is left out
        have hd := h₁.eq_of_length_le hp (Nat.le_of_not_lt hl)
        subst hd
        exact ih₂ hk hn rfl
  | nothing | one | seq | left | right | fewStop | fewMore | group | wordEdge | lineStart => cases hq

theorem isSome_fewRounds
    (ih : ∀ {c d : Cursor} {k : Cursor → Option α}, Matches p c d → (k d).isSome = true →
      (run p c k).isSome = true)
    (hp : p.hasGroup = false) (h : Matches (.few p) c e) (hk : (k e).isSome = true)
    (hn : c.rest.length ≤ n) : (fewRounds (run p) n c k).isSome = true := by
  generalize hq : Pattern.few p = q at h
  induction h generalizing n with
  | fewStop =>
      cases n with
      | zero => exact hk
      | succ n =>
          unfold fewRounds
          split
          · rfl
          · rename_i hnone
            rw [hnone] at hk
            cases hk
  | @fewMore a c d e h₁ _ _ ih₂ =>
      cases hq
      by_cases hl : d.rest.length < c.rest.length
      · obtain ⟨n, rfl⟩ := Nat.exists_eq_add_one_of_ne_zero (n := n) (by omega)
        unfold fewRounds
        split
        · rfl
        · refine ih h₁ ?_
          rw [if_pos hl]
          exact ih₂ hk (by omega) rfl
      · have hd := h₁.eq_of_length_le hp (Nat.le_of_not_lt hl)
        subst hd
        exact ih₂ hk hn rfl
  | nothing | one | seq | left | right | manyStop | manyMore | group | wordEdge | lineStart => cases hq

/-- **If there is a way to match that the rest of a search accepts, the search succeeds.** -/
theorem isSome_run (hp : p.isSteady = true) (h : Matches p c d) (hk : (k d).isSome = true) :
    (run p c k).isSome = true := by
  induction p generalizing c d k with
  | nothing => cases h; exact hk
  | one is =>
      cases h with
      | one hx =>
          unfold run
          dsimp only
          rw [if_pos hx]
          exact hk
  | seq a b iha ihb =>
      obtain ⟨ha, hb⟩ := Bool.and_eq_true_iff.mp hp
      obtain ⟨e, h₁, h₂⟩ := h.of_seq
      exact iha ha h₁ (ihb hb h₂ hk)
  | alt a b iha ihb =>
      obtain ⟨ha, hb⟩ := Bool.and_eq_true_iff.mp hp
      unfold run
      split
      · rfl
      -- the first branch is given up only if no way through it is accepted
      · rename_i hnone
        cases h with
        | left h =>
            have hfirst := iha ha h hk
            rw [hnone] at hfirst
            cases hfirst
        | right h => exact ihb hb h hk
  | many a ih =>
      obtain ⟨ha, hg⟩ := Bool.and_eq_true_iff.mp hp
      exact isSome_rounds (ih ha) (by simpa using hg) h hk (Nat.le_refl _)
  | few a ih =>
      obtain ⟨ha, hg⟩ := Bool.and_eq_true_iff.mp hp
      exact isSome_fewRounds (ih ha) (by simpa using hg) h hk (Nat.le_refl _)
  | group i a ih =>
      cases h with
      | group h => exact ih hp h hk
  | wordEdge =>
      cases h with
      | wordEdge hc =>
          unfold run
          rw [if_pos hc]
          exact hk
  | lineStart =>
      cases h with
      | lineStart hc =>
          unfold run
          rw [if_pos hc]
          exact hk

/-- A repeated class passes any stretch of its characters. -/
theorem matches_many_one {is : Char → Bool} {groups : List (Nat × Nat × Nat)} {u : List Char}
    (hu : ∀ y ∈ u, is y = true) (before rest : List Char) :
    Matches (.many (.one is)) ⟨before, u ++ rest, groups⟩ ⟨u.reverse ++ before, rest, groups⟩ := by
  induction u generalizing before with
  | nil => exact .manyStop
  | cons y u ih =>
      have hrest := ih (fun z hz => hu z (List.mem_cons_of_mem _ hz)) (y :: before)
      rw [List.reverse_cons, List.append_assoc]
      exact .manyMore (.one (hu y List.mem_cons_self)) hrest

/-- A way to match can be found by running the pattern. -/
theorem matches_of_run_eq {before rest : List Char} {groups : List (Nat × Nat × Nat)}
    (h : run p c (fun d => if d.before = before ∧ d.rest = rest ∧ d.groups = groups then some () else none)
      = some ()) : Matches p c ⟨before, rest, groups⟩ := by
  obtain ⟨d, hm, hd⟩ := matches_of_run h
  split at hd
  · rename_i heq
    obtain ⟨rfl, rfl, rfl⟩ := heq
    exact hm
  · cases hd

/-! ## No place is passed over -/

/-- Where a pattern can match, it is matched. -/
theorem isSome_matchAt (hp : p.isSteady = true) (h : Matches p c d) (hg : c.groups = [])
    (hb : before.length = c.offset) (ht : c.text = before.reverse ++ s) :
    (p.matchAt ⟨before, s, []⟩).isSome = true := by
  obtain ⟨before', rest, groups⟩ := c
  obtain ⟨hbefore, rfl⟩ := List.append_inj ht (by rw [List.length_reverse, List.length_reverse, hb]; rfl)
  obtain rfl : groups = [] := hg
  obtain rfl := List.reverse_inj.mp hbefore
  exact isSome_run hp h rfl

/-- A search from a place on finds a match that begins no later than one can. -/
theorem exists_searchFrom (hp : p.isSteady = true) (h : Matches p c d) (hg : c.groups = [])
    (hb : before.length ≤ c.offset) (ht : c.text = before.reverse ++ s) :
    ∃ f e, searchFrom p before s = some (f, e) ∧ f.start ≤ c.offset := by
  induction s generalizing before with
  | nil =>
      have hlength := c.length_text
      rw [ht, List.append_nil, List.length_reverse] at hlength
      have hm := isSome_matchAt hp h hg (by omega) ht
      obtain ⟨e, he⟩ := Option.isSome_iff_exists.mp hm
      refine ⟨⟨before.length, e.offset, e.groups⟩, e, ?_, hb⟩
      rw [searchFrom, he]
      rfl
  | cons x s ih =>
      unfold searchFrom
      split
      · exact ⟨_, _, rfl, hb⟩
      · rename_i hnone
        have hne : before.length ≠ c.offset := by
          intro he
          have hm := isSome_matchAt hp h hg he ht
          rw [hnone] at hm
          cases hm
        have htext : c.text = (x :: before).reverse ++ s := by
          rw [ht, List.reverse_cons, List.append_assoc]
          rfl
        refine ih ?_ htext
        rw [List.length_cons]
        omega

/-- The matches from a place on reach every later place where the pattern can match. -/
theorem exists_mem_findFrom (hp : p.isSteady = true) (h : Matches p c d) (hg : c.groups = [])
    (hn : s.length < n) (hb : before.length ≤ c.offset) (ht : c.text = before.reverse ++ s) :
    ∃ f ∈ findFrom p n before s, f.start ≤ c.offset ∧ (c.offset < f.stop ∨ f.start = c.offset) := by
  induction n generalizing before s with
  | zero => exact absurd hn (Nat.not_lt_zero _)
  | succ n ih =>
      obtain ⟨f, e, hs, hle⟩ := exists_searchFrom hp h hg hb ht
      obtain ⟨hm, hge, hoff, htext⟩ := isMatch_of_searchFrom hs
      have hforward := hm.start_le
      have hlength := e.length_text
      rw [htext, List.length_append, List.length_reverse, hoff] at hlength
      have hbefore : e.before.length = f.stop := hoff
      unfold findFrom
      rw [hs]
      dsimp only
      by_cases hreach : c.offset < f.stop ∨ f.start = c.offset
      · refine ⟨f, ?_, hle, hreach⟩
        split
        · exact List.mem_cons_self
        · split <;> exact List.mem_cons_self
      -- the match ends before the place, and the search goes on behind it
      · obtain ⟨hstop, hstart⟩ := not_or.mp hreach
        split
        · have htext' : c.text = e.before.reverse ++ e.rest := ht.trans htext.symm
          obtain ⟨g, hmem, hg⟩ := ih (by omega) (by omega) htext'
          exact ⟨g, List.mem_cons_of_mem _ hmem, hg⟩
        · cases hrest : e.rest with
          | nil =>
              have hend := c.length_text
              rw [ht, List.length_append, List.length_reverse] at hend
              rw [hrest, List.length_nil] at hlength
              omega
          | cons y r =>
              rw [hrest, List.length_cons] at hlength
              have htext' : c.text = (y :: e.before).reverse ++ r := by
                rw [ht, ← htext, Cursor.text, hrest]
                simp
              obtain ⟨g, hmem, hg⟩ := ih (by omega) (by rw [List.length_cons]; omega) htext'
              exact ⟨g, List.mem_cons_of_mem _ hmem, hg⟩

/-- **No place where a pattern can match is passed over**: a match begins there, or one that began before
goes beyond it. -/
theorem exists_mem_findAll (hp : p.isSteady = true) (h : Matches p c d) (hg : c.groups = []) :
    ∃ f ∈ p.findAll c.text, f.start ≤ c.offset ∧ (c.offset < f.stop ∨ f.start = c.offset) :=
  exists_mem_findFrom hp h hg (Nat.lt_succ_self _) (Nat.zero_le _) rfl

end AppMend.Text.Pattern
