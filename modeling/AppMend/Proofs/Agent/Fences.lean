import AppMend.Agent.Completion
import AppMend.Proofs.Text.Search
import AppMend.Proofs.Text.Shapes

/-!
# What is in the first fence of a text

A fence opens with a mark, letters and blanks up to the end of a line (`Opening`). A text in which none opens
is taken as it stands (`body_of_no_opening`). In a text where one opens, what is in it ends where the mark stands
for the first time behind the opening, whatever that mark belongs to (`body_fenced`).
-/

namespace AppMend.Completion

open Text
open Text.Pattern (Matches)
open Text.Pattern.Cursor (Passes)

variable {s t u w a b g r before after : List Char} {c d e : Pattern.Cursor} {x : Char} {ps : List Pattern}
  {p : Pattern}

/-! ## The mark -/

/-- The character of the mark. -/
def tick : Char := Char.ofNat 96

theorem fenceMark_eq : fenceMark = [tick, tick, tick] := rfl

theorem mem_of_fenceMark_infix (h : fenceMark <:+: s) : tick ∈ s :=
  h.subset (fenceMark_eq ▸ List.mem_cons_self)

/-- A mark that begins before another character than its own ends before it. -/
theorem infix_of_append_eq (hx : x ≠ tick) (h : s ++ x :: t = u ++ (fenceMark ++ r))
    (hle : u.length ≤ s.length) : fenceMark <:+: s := by
  obtain ⟨z, rfl, hz⟩ := Pattern.exists_append_of_le h hle
  -- the mark and what follows it are `z`, the character and the rest
  rcases z with _ | ⟨x₁, _ | ⟨x₂, _ | ⟨x₃, z⟩⟩⟩
  all_goals simp only [fenceMark_eq, List.cons_append, List.nil_append, List.cons.injEq] at hz
  · exact absurd hz.1 hx
  · exact absurd hz.2.1 hx
  · exact absurd hz.2.2.1 hx
  · obtain ⟨rfl, rfl, rfl, -⟩ := hz
    exact ⟨u, z, by simp [fenceMark_eq]⟩

/-- A text on its lines, without a mark of its own, goes on to the mark behind it. -/
theorem cut?_of_no_mark (h : ¬fenceMark <:+: s) (t : List Char) :
    cut? fenceMark (s ++ '\n' :: (fenceMark ++ t)) = some (s ++ ['\n'], t) := by
  refine cut?_eq_some_iff.mpr ⟨by simp, fun u r hsplit => Nat.le_of_not_lt fun hlt => ?_⟩
  rw [List.length_append, List.length_singleton] at hlt
  rw [List.append_assoc u] at hsplit
  exact h (infix_of_append_eq (by decide) hsplit (by omega))

/-- A text with a mark of its own goes on to the first one, whatever is behind it. -/
theorem cut?_of_mark (h : fenceMark <:+: s) (t : List Char) :
    ∃ g q r, cut? fenceMark (s ++ t) = some (g, r) ∧ s = g ++ (fenceMark ++ q) := by
  obtain ⟨⟨g, q⟩, hcut⟩ := Option.isSome_iff_exists.mp ( isSome_cut?_of_infix h)
  obtain ⟨hs, hfirst⟩ := cut?_eq_some_iff.mp hcut
  refine ⟨g, q, q ++ t, cut?_eq_some_iff.mpr ⟨by rw [hs]; simp, fun u r hsplit => ?_⟩, by rw [hs]; simp⟩
  -- a mark that came earlier would stand in the text itself
  refine Nat.le_of_not_lt fun hlt => ?_
  have hlength := congrArg List.length hs
  simp only [List.length_append] at hlength
  obtain ⟨z, hz, -⟩ := Pattern.exists_append_of_le hsplit (by simp only [List.length_append]; omega)
  exact absurd (hfirst u z hz) (Nat.not_le_of_lt hlt)

/-! ## Openings -/

/-- The beginning of a fence, with the end of its line. -/
inductive Opening : List Char → Prop where
  | mk {w b : List Char} : (∀ x ∈ w, x.isAlpha = true) → (∀ x ∈ b, isBlank x = true) →
      Opening (fenceMark ++ (w ++ (b ++ ['\n'])))

/-- What a fence is made of behind its opening. -/
def closing : List Pattern := [.group 1 (.few (.one fun _ => true)), .chars fenceMark]

/-- A search for a fence passes an opening and goes on behind it. -/
theorem opening_of_run {k : Pattern.Cursor → Option Pattern.Cursor} (h : fence.run c k = some e) :
    ∃ o d, Opening o ∧ Passes o c d ∧ Pattern.run (.all closing) d k = some e := by
  have first {p : Pattern} {ps : List Pattern} {c : Pattern.Cursor}
      (h : Pattern.run (.all (p :: ps)) c k = some e) :
      ∃ d, Matches p c d ∧ Pattern.run (.all ps) d k = some e := Pattern.matches_of_run h
  obtain ⟨c₁, hmark, h⟩ := first h
  obtain ⟨c₂, hword, h⟩ := first h
  obtain ⟨c₃, hblank, h⟩ := first h
  obtain ⟨c₄, hline, h⟩ := first h
  obtain ⟨w, hw, hword⟩ := Pattern.matches_many_one_iff.mp hword
  obtain ⟨b, hb, hblank⟩ := Pattern.matches_many_one_iff.mp hblank
  obtain ⟨x, hx, hline⟩ := Pattern.matches_one_iff.mp hline
  obtain rfl := eq_of_beq hx
  exact ⟨_, c₄, .mk hw hb,
    (Pattern.matches_chars_iff.mp hmark).trans (hword.trans (hblank.trans hline)), h⟩

/-- **A text in which no fence opens is taken as it stands.** -/
theorem body_of_no_opening (h : ∀ o, Opening o → ¬o <:+: s) : body s = trim s := by
  cases hfind : fence.find? s with
  | none => rw [body, hfind]
  | some f =>
      obtain ⟨⟨f', d⟩, hsearch, rfl⟩ := Option.map_eq_some_iff.mp hfind
      obtain ⟨before, rest, htext, hrun, -⟩ := Pattern.matchAt_of_searchFrom hsearch
      obtain ⟨o, e, ho, hpass, -⟩ := opening_of_run hrun
      refine absurd ⟨before.reverse, e.rest, ?_⟩ (h o ho)
      rw [List.append_assoc, ← hpass.rest_eq]
      exact htext.symm

/-! ## The first fence -/

/-- A pattern that begins nowhere in a text is sought behind it. -/
theorem searchFrom_append (hnone : ∀ x ∈ u, ∀ b r, p.matchAt ⟨b, x :: r, []⟩ = none) :
    p.searchFrom before (u ++ s) = p.searchFrom (u.reverse ++ before) s := by
  induction u generalizing before with
  | nil => rfl
  | cons x u ih =>
      rw [List.cons_append, Pattern.searchFrom, hnone x List.mem_cons_self]
      dsimp only
      rw [ih fun y hy => hnone y (List.mem_cons_of_mem _ hy), List.reverse_cons, List.append_assoc]
      rfl

theorem matchAt_fence_of_ne (hx : x ≠ tick) : fence.matchAt ⟨b, x :: r, []⟩ = none := by
  refine Option.eq_none_iff_forall_ne_some.mpr fun d hd => ?_
  obtain ⟨o, e, ⟨-, -⟩, hpass, -⟩ := opening_of_run hd
  exact hx (List.cons.inj hpass.rest_eq).1

/-- What the search goes on with behind an opening: as little as can be, up to a mark. -/
theorem shortest_of_closing (h : Pattern.run (.all closing) c some = some e) :
    ∃ g r, c.rest = g ++ (fenceMark ++ r) ∧ e.groups = (1, c.offset, c.offset + g.length) :: c.groups ∧
      ∀ v w, g = v ++ w → w ≠ [] → ¬fenceMark <+: w ++ (fenceMark ++ r) := by
  have hsteady : (Pattern.all [.chars fenceMark]).isSteady = true := by decide
  have hmark (d : Pattern.Cursor) (r : List Char) (hd : d.rest = fenceMark ++ r) :
      (Pattern.run (.all [.chars fenceMark]) d some).isSome = true := by
    have hclose := Pattern.matches_chars_iff.mpr (Passes.of_rest hd)
    exact Pattern.isSome_run hsteady (Pattern.matches_all_cons_iff.mpr ⟨_, hclose, .nothing⟩) rfl
  obtain ⟨g, d, hg, -, hk, hmin⟩ := Pattern.shortest_of_fewRounds h
  obtain ⟨e', hm, he⟩ := Pattern.matches_of_run (p := .all [.chars fenceMark]) hk
  obtain rfl := Option.some.inj he
  obtain ⟨d', hclose, hend⟩ := Pattern.matches_all_cons_iff.mp hm
  obtain rfl := Pattern.matches_all_nil_iff.mp hend
  have hpass := Pattern.matches_chars_iff.mp hclose
  have hrest : d.rest = fenceMark ++ e'.rest := hpass.rest_eq
  refine ⟨g, e'.rest, by rw [hg.rest_eq, hrest], ?_, ?_⟩
  · rw [hpass.groups_eq, ← hg.offset_eq, ← hg.groups_eq]
  · rintro v w hsplit hne ⟨z, hz⟩
    have hv : Passes v c ⟨v.reverse ++ c.before, w ++ d.rest, c.groups⟩ :=
      .of_rest (by rw [hg.rest_eq, hsplit, List.append_assoc])
    have hnone := hmin v w _ hsplit hne hv
    have hsome := hmark ⟨v.reverse ++ c.before, w ++ d.rest,
      (1, c.offset, (v.reverse ++ c.before).length) :: c.groups⟩ z
      (show w ++ d.rest = _ by rw [hz, hrest])
    exact absurd hnone (Option.isSome_iff_ne_none.mp hsome)

/-- Blanks at the start of a text end before its first other character. -/
theorem exists_append_of_blank (hu : ∀ z ∈ u, isBlank z = true) (hx : isBlank x = false)
    (h : u ++ t = a ++ x :: s) : ∃ b, a = u ++ b ∧ t = b ++ x :: s := by
  by_cases hle : u.length ≤ a.length
  · obtain ⟨b, rfl, ht⟩ := Pattern.exists_append_of_le h.symm hle
    exact ⟨b, rfl, ht.symm⟩
  · obtain ⟨z, rfl, hz⟩ := Pattern.exists_append_of_le h (Nat.le_of_not_le hle)
    cases z with
    | nil => simp at hle
    | cons y z =>
        obtain rfl : y = x := (List.cons.inj hz).1
        rw [hu y (by simp)] at hx
        cases hx

theorem isAlpha_iff : x.isAlpha = true ↔ 65 ≤ x.toNat ∧ x.toNat ≤ 90 ∨ 97 ≤ x.toNat ∧ x.toNat ≤ 122 := by
  show (decide (65 ≤ x.val ∧ x.val ≤ 90) || (decide (97 ≤ x.val) && decide (x.val ≤ 122))) = true ↔ _
  simp only [Bool.or_eq_true, Bool.and_eq_true, decide_eq_true_eq, UInt32.le_iff_toNat_le]
  exact Iff.rfl

theorem not_isAlpha_of_isBlank (h : isBlank x = true) : x.isAlpha = false := by
  refine Bool.eq_false_iff.mpr fun hx => ?_
  rw [isAlpha_iff] at hx
  simp only [isBlank, Bool.or_eq_true, Bool.and_eq_true, beq_iff_eq, decide_eq_true_eq] at h
  omega

/-- Behind an opening of a fence there is what stands on the lines behind it, but for blanks. -/
theorem rest_of_opening {o : List Char} (hw : ∀ z ∈ w, z.isAlpha = true) (ha : ∀ z ∈ a, isBlank z = true)
    (hx : isBlank x = false) (ho : Opening o) (h : o ++ t = fenceMark ++ (w ++ '\n' :: (a ++ x :: s))) :
    ∃ b, (∀ z ∈ b, isBlank z = true) ∧ t = b ++ x :: s := by
  obtain @⟨w', b', hw', hb'⟩ := ho
  simp only [List.append_assoc, List.append_cancel_left_eq, List.singleton_append] at h
  have hline : ∀ z ∈ b' ++ ['\n'], isBlank z = true := by
    intro z hz
    rcases List.mem_append.mp hz with hz | hz
    · exact hb' z hz
    · rw [List.mem_singleton.mp hz]
      rfl
  -- the letters of both end at the first character that is none
  have hletters : w' = w := by
    have hword (z : List Char) (hz : ∀ y ∈ z, y.isAlpha = true) : ∀ y ∈ z, (!y.isAlpha) = false :=
      fun y hy => by rw [hz y hy]; rfl
    obtain ⟨y, l, hl, hy⟩ : ∃ y l, b' ++ '\n' :: t = y :: l ∧ (!y.isAlpha) = true := by
      cases b' with
      | nil => exact ⟨_, _, rfl, rfl⟩
      | cons y b' => exact ⟨_, _, rfl, by rw [not_isAlpha_of_isBlank (hb' y List.mem_cons_self)]; rfl⟩
    rw [hl] at h
    exact (Pattern.eq_of_first (hword w' hw') (hword w hw) hy rfl h).1
  subst hletters
  have h : (b' ++ ['\n']) ++ t = ('\n' :: a) ++ x :: s := by
    simpa using h
  obtain ⟨b, hb, ht⟩ := exists_append_of_blank hline hx h
  refine ⟨b, fun z hz => ?_, ht⟩
  have hmem : z ∈ '\n' :: a := hb ▸ List.mem_append_right _ hz
  rcases List.mem_cons.mp hmem with rfl | hz
  · rfl
  · exact ha z hz

/-- A fence is found wherever one opens and is closed. -/
theorem isSome_matchAt_fence {o : List Char} (ho : Opening o) (before g r : List Char) :
    (fence.matchAt ⟨before, o ++ (g ++ (fenceMark ++ r)), []⟩).isSome = true := by
  have first {p : Pattern} {ps : List Pattern} {c d : Pattern.Cursor} (hp : Matches p c d)
      (h : ∃ e, Matches (.all ps) d e) : ∃ e, Matches (.all (p :: ps)) c e :=
    h.imp fun _ hps => Pattern.matches_all_cons_iff.mpr ⟨d, hp, hps⟩
  obtain @⟨w, b, hw, hb⟩ := ho
  obtain ⟨e, he⟩ : ∃ e, Matches fence
      ⟨before, (fenceMark ++ (w ++ (b ++ ['\n']))) ++ (g ++ (fenceMark ++ r)), []⟩ e := by
    simp only [List.append_assoc]
    refine first (Pattern.matches_chars_iff.mpr (.of_rest rfl)) ?_
    refine first (Pattern.matches_many_one_iff.mpr ⟨w, hw, .of_rest rfl⟩) ?_
    refine first (Pattern.matches_many_one_iff.mpr ⟨b, hb, .of_rest rfl⟩) ?_
    refine first (Pattern.matches_one_iff.mpr ⟨'\n', rfl, .of_rest rfl⟩) ?_
    refine first (.group (Pattern.matches_few_one_iff.mpr ⟨g, fun _ _ => rfl, .of_rest rfl⟩)) ?_
    exact first (Pattern.matches_chars_iff.mpr (.of_rest rfl)) ⟨_, Pattern.matches_all_nil_iff.mpr rfl⟩
  have hsteady : fence.isSteady = true := by decide
  exact Pattern.isSome_run hsteady he rfl

/-- What is in a text is what the first group of its fence stretches over. -/
theorem body_of_find? {f : Pattern.Found} {groups : List (Nat × Nat × Nat)} (h : fence.find? t = some f)
    (hgroups : f.groups = (1, u.length, u.length + g.length) :: groups) (ht : t = u ++ (g ++ r)) :
    body t = trim g := by
  have hstretch : (t.drop u.length).take (u.length + g.length - u.length) = g := by
    rw [ht]
    exact Pattern.stretch_append u g r
  unfold body
  rw [h]
  dsimp only
  rw [hgroups, List.find?_cons_of_pos (by rfl)]
  show trim ((t.drop u.length).take (u.length + g.length - u.length)) = _
  rw [hstretch]

/-- Between blanks and a text the mark stands for the first time where it does in the text. -/
theorem eq_append_of_shortest {g' r' : List Char} (hb : ∀ z ∈ b, isBlank z = true)
    (hcut : cut? fenceMark s = some (g, r)) (h : b ++ s = g' ++ (fenceMark ++ r'))
    (hmin : ∀ v w, g' = v ++ w → w ≠ [] → ¬fenceMark <+: w ++ (fenceMark ++ r')) : g' = b ++ g := by
  obtain ⟨hs, hfirst⟩ := cut?_eq_some_iff.mp hcut
  have hboth : (b ++ g) ++ (fenceMark ++ r) = g' ++ (fenceMark ++ r') := by
    rw [← h, hs]
    simp
  -- the mark does not begin among the blanks
  have hblanks : b.length ≤ g'.length := by
    refine Nat.le_of_not_lt fun hlt => ?_
    obtain ⟨z, rfl, hz⟩ := Pattern.exists_append_of_le h (Nat.le_of_lt hlt)
    cases z with
    | nil => simp at hlt
    | cons y z =>
        obtain rfl : y = tick := (List.cons.inj hz).1
        cases hb tick (by simp)
  have hlower : (b ++ g).length ≤ g'.length := by
    obtain ⟨z, rfl, hz⟩ := Pattern.exists_append_of_le h.symm hblanks
    have := hfirst z r' (by rw [← hz, List.append_assoc])
    simp only [List.length_append]
    omega
  have hupper : g'.length ≤ (b ++ g).length := by
    refine Nat.le_of_not_lt fun hlt => ?_
    obtain ⟨z, hz, hmark⟩ := Pattern.exists_append_of_le hboth.symm (Nat.le_of_lt hlt)
    refine hmin (b ++ g) z hz ?_ ⟨r, hmark.symm⟩
    rintro rfl
    rw [hz, List.append_nil] at hlt
    exact Nat.lt_irrefl _ hlt
  exact (List.append_inj hboth (Nat.le_antisymm hlower hupper)).1.symm

/-- **The first fence of a text ends where the mark stands for the first time behind its opening.** -/
theorem body_fenced (hbefore : tick ∉ before) (hw : ∀ z ∈ w, z.isAlpha = true)
    (ha : ∀ z ∈ a, isBlank z = true) (hx : isBlank x = false)
    (hcut : cut? fenceMark (x :: s) = some (g, r)) :
    body (before ++ (fenceMark ++ (w ++ '\n' :: (a ++ x :: s)))) = trim g := by
  have ho : Opening (fenceMark ++ (w ++ ([] ++ ['\n']))) := .mk hw (by simp)
  have hs : x :: s = g ++ fenceMark ++ r := cut?_eq_some hcut
  obtain ⟨e, he⟩ := Option.isSome_iff_exists.mp (isSome_matchAt_fence ho before.reverse (a ++ g) r)
  have htext : (fenceMark ++ (w ++ ([] ++ ['\n']))) ++ ((a ++ g) ++ (fenceMark ++ r)) =
      fenceMark ++ (w ++ '\n' :: (a ++ x :: s)) := by
    rw [hs]
    simp
  rw [htext] at he
  -- it is found behind what has no mark
  have hfind : fence.find? (before ++ (fenceMark ++ (w ++ '\n' :: (a ++ x :: s)))) =
      some ⟨before.reverse.length, e.offset, e.groups⟩ := by
    obtain ⟨t, ht⟩ : ∃ t, fenceMark ++ (w ++ '\n' :: (a ++ x :: s)) = tick :: t := ⟨_, rfl⟩
    rw [ht] at he ⊢
    rw [Pattern.find?, searchFrom_append fun y hy b r => matchAt_fence_of_ne (fun h => hbefore (h ▸ hy)),
      List.append_nil, Pattern.searchFrom, he]
    rfl
  obtain ⟨o, d, ho, hpass, hin⟩ := opening_of_run he
  obtain ⟨b, hb, hd⟩ := rest_of_opening hw ha hx ho (hpass.rest_eq.symm.trans rfl)
  obtain ⟨g', r', hrest, hgroups, hmin⟩ := shortest_of_closing hin
  obtain rfl : g' = b ++ g := eq_append_of_shortest hb hcut (hd.symm.trans hrest) hmin
  have hoffset : d.offset = (before ++ o).length := by
    rw [hpass.offset_eq, List.length_append]
    show before.reverse.length + o.length = _
    rw [List.length_reverse]
  rw [hoffset] at hgroups
  rw [body_of_find? hfind hgroups (r := fenceMark ++ r'), trim, trimStart_append hb, ← trim]
  rw [List.append_assoc, ← hrest, ← hpass.rest_eq]

end AppMend.Completion
