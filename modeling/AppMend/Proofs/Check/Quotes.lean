import AppMend.Check.Quotes
import AppMend.Proofs.Text.Pattern

/-!
# Repaired quotes are paired

The pattern for imports does not tell the two quotation marks apart, and a repair writes the one for the
other. So the repaired text has the matches of the text it began with, at the same offsets. A match is
paired if its closing mark is like its opening one. A repair pairs its match and leaves every other
match as it was, because no match overlaps another; so after all repairs every match is paired, and there
is nothing left to repair (`repairQuotes_mended`).
-/

namespace AppMend.Check

open Text Pattern

variable {s t : List Char} {f g : Found} {a b : Nat}

/-! ## The matches of the pattern -/

def isMark (x : Char) : Bool := "'\"".toList.contains x

theorem isMark_iff {x : Char} : isMark x = true ↔ x = '\'' ∨ x = '"' := by
  simp [isMark]

theorem importQuotes_eq : importQuotes =
    .seq .lineStart (.seq (.group 1 importHead) (.seq (.group 2 (.one isMark))
      (.seq (.group 3 (.many (noneOf "'\"\n"))) (.seq (.group 4 (.one isMark)) .nothing)))) := rfl

theorem confuses_importQuotes : importQuotes.confuses '\'' '"' = true := by decide

theorem kin_marks : Kin '\'' '"' := ⟨by decide, by decide⟩

/-- What avoids both marks passes none. -/
theorem not_isMark_of_avoids {p : Pattern} {c d : Cursor} {i : Nat} {x : Char} (h : Matches p c d)
    (hp : p.avoids '\'' = true ∧ p.avoids '"' = true) (hi : c.offset ≤ i) (hid : i < d.offset)
    (hx : c.text[i]? = some x) : isMark x = false := by
  refine Bool.eq_false_iff.mpr fun hmark => ?_
  rcases isMark_iff.mp hmark with rfl | rfl
  · exact h.ne_of_avoids hp.1 hi hid hx
  · exact h.ne_of_avoids hp.2 hi hid hx

/-- A match of a text with its opening mark at one offset and its closing mark at another. -/
structure Marked (s : List Char) (f : Found) (a b : Nat) : Prop where
  opening : f.span? 2 = some (a, a + 1)
  closing : f.span? 4 = some (b, b + 1)
  start_le : f.start ≤ a
  lt : a < b
  stop_eq : f.stop = b + 1
  openingMark : ∃ u, s[a]? = some u ∧ isMark u = true
  closingMark : ∃ v, s[b]? = some v ∧ isMark v = true
  lineStart : f.start = 0 ∨ s[f.start - 1]? = some '\n'
  /-- The head has no mark. -/
  head : ∀ i x, f.start ≤ i → i < a → s[i]? = some x → isMark x = false
  /-- The path has no mark and stays on its line. -/
  path : ∀ i x, a < i → i < b → s[i]? = some x → isMark x = false ∧ x ≠ '\n'

/-- **Every match of the pattern for imports has two marks.** -/
theorem marked_of_mem (h : f ∈ importQuotes.findAll s) : ∃ a b, Marked s f a b := by
  obtain ⟨c, e, hm, rfl, hgroups, rfl⟩ := isMatch_of_mem_findAll h
  rw [importQuotes_eq] at hm
  obtain ⟨c₀, m₀, hrest⟩ := hm.of_seq
  obtain ⟨rfl, hline⟩ := m₀.of_lineStart
  obtain ⟨c₁, m₁, hm⟩ := hrest.of_seq
  obtain ⟨c₂, m₂, hm⟩ := hm.of_seq
  obtain ⟨c₃, m₃, hm⟩ := hm.of_seq
  obtain ⟨c₄, m₄, hm⟩ := hm.of_seq
  -- the opening mark stands at `c₁`, the closing one at `c₃`
  obtain ⟨d₁, n₁, hoff₁, hg₁⟩ := m₁.of_group
  obtain ⟨d₂, n₂, hoff₂, hg₂⟩ := m₂.of_group
  obtain ⟨d₃, n₃, hoff₃, hg₃⟩ := m₃.of_group
  obtain ⟨d₄, n₄, hoff₄, hg₄⟩ := m₄.of_group
  obtain ⟨hnext₂, hkeep₂, hmark₂⟩ := n₂.of_one
  obtain ⟨hnext₄, hkeep₄, hmark₄⟩ := n₄.of_one
  have hbetween : c₂.offset ≤ c₃.offset := m₃.offset_le
  have hgroups : e.groups = [(4, c₃.offset, c₃.offset + 1), (3, c₂.offset, d₃.offset),
      (2, c₁.offset, c₁.offset + 1), (1, c₀.offset, d₁.offset)] := by
    rw [hm.groups_eq rfl, hg₄, hkeep₄, hg₃, n₃.groups_eq rfl, hg₂, hkeep₂, hg₁,
      n₁.groups_eq (by decide), hgroups, hnext₂, hnext₄]
  have hstop : e.offset = c₃.offset + 1 := by
    cases hm
    rw [hoff₄, hnext₄]
  have htext₁ : c₁.text = c₀.text := m₁.text_eq
  have htext₂ : c₂.text = c₀.text := m₂.text_eq.trans htext₁
  have htext₃ : c₃.text = c₀.text := m₃.text_eq.trans htext₂
  rw [htext₁] at hmark₂
  rw [htext₃] at hmark₄
  refine ⟨c₁.offset, c₃.offset, ?_, ?_, m₁.offset_le, ?_, hstop, hmark₂, hmark₄, hline, ?_, ?_⟩
  · simp [Found.span?, hgroups]
  · simp [Found.span?, hgroups]
  · omega
  · intro i x hi hia hx
    exact not_isMark_of_avoids n₁ (by decide) hi (hoff₁ ▸ hia) hx
  · intro i x hai hib hx
    have hi : c₂.offset ≤ i := by omega
    have hid : i < d₃.offset := by omega
    rw [← htext₂] at hx
    refine ⟨not_isMark_of_avoids n₃ (by decide) hi hid hx, ?_⟩
    rintro rfl
    exact n₃.ne_of_avoids (by decide) hi hid hx

/-! ## Paired marks -/

/-- The closing mark of a match is like its opening mark. -/
def Paired (s : List Char) (f : Found) : Prop := f.group s 2 = f.group s 4

theorem stretch_one {x : Char} (h : s[a]? = some x) : stretch s a (a + 1) = [x] := by
  rw [stretch, Nat.add_sub_cancel_left, List.take_one, List.head?_drop, h]
  rfl

theorem group_opening {u : Char} (hm : Marked s f a b) (hu : s[a]? = some u) : f.group s 2 = [u] := by
  rw [Found.group, hm.opening]
  exact stretch_one hu

theorem group_closing {v : Char} (hm : Marked s f a b) (hv : s[b]? = some v) : f.group s 4 = [v] := by
  rw [Found.group, hm.closing]
  exact stretch_one hv

theorem paired_iff (hm : Marked s f a b) : Paired s f ↔ s[a]? = s[b]? := by
  obtain ⟨u, hu, _⟩ := hm.openingMark
  obtain ⟨v, hv, _⟩ := hm.closingMark
  rw [Paired, group_opening hm hu, group_closing hm hv, hu, hv]
  simp

/-- A repair writes the opening mark over the closing one. -/
theorem mendMark_eq {u : Char} (hm : Marked s f a b) (hu : s[a]? = some u) :
    mendMark s f = s.set b u := by
  rw [mendMark, hm.closing, group_opening hm hu]
  rfl

/-! ## What a repair does -/

/-- The text with both marks written alike. -/
abbrev unmarked (s : List Char) : List Char := s.map (unify '\'' '"')

theorem unify_mark {u : Char} (hu : isMark u = true) : unify '\'' '"' u = '\'' := by
  rcases isMark_iff.mp hu with rfl | rfl <;> rfl

/-- A repair changes nothing but a mark. -/
theorem unmarked_mendMark (hm : Marked s f a b) : unmarked (mendMark s f) = unmarked s := by
  obtain ⟨u, hu, hmu⟩ := hm.openingMark
  obtain ⟨v, hv, hmv⟩ := hm.closingMark
  obtain ⟨hlt, hget⟩ := List.getElem?_eq_some_iff.mp hv
  have hlt' : b < (unmarked s).length := by simpa using hlt
  -- the write puts a mark where there was one, and marks are written alike
  have hsame : unify '\'' '"' u = (unmarked s)[b] := by
    rw [List.getElem_map, hget, unify_mark hmu, unify_mark hmv]
  rw [mendMark_eq hm hu, unmarked, List.map_set, hsame]
  exact List.set_getElem_self _

/-- A repair pairs its match. -/
theorem paired_mendMark (hm : Marked s f a b) (hm' : Marked (mendMark s f) f a b) :
    Paired (mendMark s f) f := by
  obtain ⟨u, hu, _⟩ := hm.openingMark
  obtain ⟨v, hv, _⟩ := hm.closingMark
  have hlt : b < s.length := (List.getElem?_eq_some_iff.mp hv).1
  rw [paired_iff hm', mendMark_eq hm hu, List.getElem?_set_ne (Nat.ne_of_gt hm.lt),
    List.getElem?_set_self hlt]
  exact hu

/-- A repair leaves a match paired that does not overlap its own. -/
theorem Paired.mendMark {a' b' : Nat} (hp : Paired s g) (hg : Marked s g a' b')
    (hg' : Marked (mendMark s f) g a' b') (hm : Marked s f a b)
    (hd : f.stop ≤ g.start ∨ g.stop ≤ f.start) : Paired (mendMark s f) g := by
  obtain ⟨u, hu, _⟩ := hm.openingMark
  have hne : b ≠ a' ∧ b ≠ b' := by
    have := hg.start_le
    have := hg.lt
    have := hg.stop_eq
    have := hm.start_le
    have := hm.lt
    have := hm.stop_eq
    omega
  rw [paired_iff hg', mendMark_eq hm hu, List.getElem?_set_ne hne.1, List.getElem?_set_ne hne.2]
  exact (paired_iff hg).mp hp

/-! ## All repairs -/

/-- A text that differs in marks alone has the same matches, with their marks at the same offsets. -/
theorem marked_of_unmarked (hst : unmarked t = unmarked s) (hm : Marked s f a b)
    (hf : f ∈ importQuotes.findAll s) : Marked t f a b := by
  rw [← findAll_alike kin_marks confuses_importQuotes hst] at hf
  obtain ⟨a', b', hm'⟩ := marked_of_mem hf
  have ha : a' = a := by simpa using hm'.opening.symm.trans hm.opening
  have hb : b' = b := by simpa using hm'.closing.symm.trans hm.closing
  rw [ha, hb] at hm'
  exact hm'

/-- Repairs of some matches change marks alone. They pair these matches, and those that are paired stay
paired. -/
theorem paired_foldl_mendMark {fs : List Found} (hfs : ∀ f ∈ fs, f ∈ importQuotes.findAll s)
    (hst : unmarked t = unmarked s) :
    unmarked (fs.foldl mendMark t) = unmarked s ∧
      ∀ g ∈ importQuotes.findAll s, g ∈ fs ∨ Paired t g → Paired (fs.foldl mendMark t) g := by
  -- offsets are those of `s` all the time, for the text in between differs in marks alone
  induction fs generalizing t with
  | nil => exact ⟨hst, fun g _ hg => hg.resolve_left (by simp)⟩
  | cons f fs ih =>
      have hf := hfs f List.mem_cons_self
      obtain ⟨a, b, hms⟩ := marked_of_mem hf
      have hm := marked_of_unmarked hst hms hf
      have hst' : unmarked (mendMark t f) = unmarked s := (unmarked_mendMark hm).trans hst
      obtain ⟨hunmarked, hpaired⟩ := ih (fun g hg => hfs g (List.mem_cons_of_mem _ hg)) hst'
      refine ⟨hunmarked, fun g hg hor => hpaired g hg ?_⟩
      by_cases hgf : g = f
      · subst hgf
        exact .inr (paired_mendMark hm (marked_of_unmarked hst' hms hf))
      · refine hor.imp (fun hmem => (List.mem_cons.mp hmem).resolve_left hgf) fun hp => ?_
        obtain ⟨a', b', hgs⟩ := marked_of_mem hg
        exact hp.mendMark (marked_of_unmarked hst hgs hg) (marked_of_unmarked hst' hgs hg) hm
          (disjoint_of_mem_findAll hf hg (Ne.symm hgf))

theorem mem_mismatches_iff : f ∈ mismatches s ↔ f ∈ importQuotes.findAll s ∧ ¬Paired s f := by
  simp [mismatches, Paired]

theorem repairQuotes_eq_none_iff :
    repairQuotes s = none ↔ ∀ f ∈ importQuotes.findAll s, Paired s f := by
  unfold repairQuotes mismatches
  simp [Paired, List.filter_eq_nil_iff]

/-- What a repair gives, if there is anything to repair. -/
theorem repairQuotes_eq_some_iff {ls : List Nat} : repairQuotes s = some (t, ls) ↔
    mismatches s ≠ [] ∧ t = (mismatches s).foldl mendMark s ∧
      ls = (mismatches s).map fun f => lineAt s (openingMark f) := by
  unfold repairQuotes
  dsimp only
  split
  · rename_i hnone
    simp [List.isEmpty_iff.mp hnone]
  · rename_i hsome
    constructor
    · intro h
      obtain ⟨rfl, rfl⟩ := Prod.mk.inj (Option.some.inj h)
      exact ⟨fun hnone => hsome (List.isEmpty_iff.mpr hnone), rfl, rfl⟩
    · rintro ⟨_, rfl, rfl⟩
      rfl

/-- **A repair changes nothing but marks, and pairs all matches.** -/
theorem paired_repaired {ls : List Nat} (h : repairQuotes s = some (t, ls)) :
    unmarked t = unmarked s ∧ ∀ f ∈ importQuotes.findAll s, Paired t f := by
  obtain ⟨_, rfl, _⟩ := repairQuotes_eq_some_iff.mp h
  have hfs : ∀ f ∈ mismatches s, f ∈ importQuotes.findAll s := fun f hf => (mem_mismatches_iff.mp hf).1
  obtain ⟨hunmarked, hpaired⟩ := paired_foldl_mendMark (t := s) hfs rfl
  refine ⟨hunmarked, fun f hf => hpaired f hf ?_⟩
  by_cases hp : Paired s f
  · exact .inr hp
  · exact .inl (mem_mismatches_iff.mpr ⟨hf, hp⟩)

/-- **A repaired text needs no repair.** -/
theorem repairQuotes_repaired {ls : List Nat} (h : repairQuotes s = some (t, ls)) :
    repairQuotes t = none := by
  obtain ⟨hunmarked, hpaired⟩ := paired_repaired h
  rw [repairQuotes_eq_none_iff, findAll_alike kin_marks confuses_importQuotes hunmarked]
  exact hpaired

end AppMend.Check
