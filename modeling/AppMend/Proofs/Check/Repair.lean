import AppMend.Proofs.Check.Quotes
import AppMend.Text.Lines

/-!
# What a repair changes

A repair writes over the closing marks of the matches that are not paired, and over nothing else
(`differs_iff`); where it does, a mark stood and a mark stands. So the text stays as long as it was. A
path stays on its line, so the line of its opening mark, which is reported, is the line of its closing
mark, which was changed: the lines that are reported are those of the changes (`mem_lines_iff`), and they
ascend as the matches do. For from one offset of a text to a later one the line grows by the line feeds in
between (`lineAt_eq_add`).
-/

namespace AppMend

namespace Text

/-! ## Offsets and their lines -/

variable {s : List Char} {a b i : Nat}

/-- **From one offset to a later one the line grows by the line feeds in between.** -/
theorem lineAt_eq_add (h : a ≤ b) : lineAt s b = lineAt s a + newlines ((s.drop a).take (b - a)) := by
  have htake : s.take b = s.take a ++ (s.drop a).take (b - a) := by
    rw [← List.take_add, Nat.add_sub_cancel' h]
  rw [lineAt, htake, newlines_append, lineAt, Nat.add_right_comm]

theorem lineAt_le (h : a ≤ b) : lineAt s a ≤ lineAt s b := by
  rw [lineAt_eq_add h]
  exact Nat.le_add_right _ _

theorem lineAt_lt (hai : a ≤ i) (hib : i < b) (hi : s[i]? = some '\n') : lineAt s a < lineAt s b := by
  have hmem : '\n' ∈ (s.drop a).take (b - a) := by
    refine List.mem_iff_getElem?.mpr ⟨i - a, ?_⟩
    rw [List.getElem?_take_of_lt (by omega), List.getElem?_drop, Nat.add_sub_cancel' hai, hi]
  rw [lineAt_eq_add (Nat.le_trans hai (Nat.le_of_lt hib))]
  exact Nat.lt_add_of_pos_right (List.count_pos_iff.mpr hmem)

theorem lineAt_eq (h : a ≤ b) (hno : ∀ i, a ≤ i → i < b → s[i]? ≠ some '\n') :
    lineAt s b = lineAt s a := by
  have hnone : newlines ((s.drop a).take (b - a)) = 0 := by
    refine List.count_eq_zero.mpr fun hmem => ?_
    obtain ⟨k, hk⟩ := List.mem_iff_getElem?.mp hmem
    obtain ⟨hlt, _⟩ := List.getElem?_eq_some_iff.mp hk
    have hkb : k < b - a := Nat.lt_of_lt_of_le hlt (List.length_take_le _ _)
    rw [List.getElem?_take_of_lt hkb, List.getElem?_drop] at hk
    exact hno (a + k) (Nat.le_add_right _ _) (by omega) hk
  rw [lineAt_eq_add h, hnone, Nat.add_zero]

end Text

namespace Check

open Text Pattern

variable {s t : List Char} {ls : List Nat} {f g : Found} {a a' b i : Nat}

/-! ## The changed places -/

theorem Marked.openingMark_eq (hm : Marked s f a b) : Check.openingMark f = a := by
  rw [Check.openingMark, hm.opening]
  rfl

/-- A repair leaves alone what is no closing mark of its matches. -/
theorem getElem?_foldl_mendMark {fs : List Found}
    (h : ∀ f ∈ fs, ∀ x y, f.span? 4 = some (x, y) → x ≠ i) : (fs.foldl mendMark t)[i]? = t[i]? := by
  induction fs generalizing t with
  | nil => rfl
  | cons f fs ih =>
      rw [List.foldl_cons, ih fun g hg => h g (List.mem_cons_of_mem _ hg)]
      unfold mendMark
      split
      · rename_i x y hx
        exact List.getElem?_set_ne (h f List.mem_cons_self x y hx)
      · rfl

theorem getElem?_repaired_of_not_closing (h : repairQuotes s = some (t, ls))
    (hi : ∀ f ∈ mismatches s, ∀ a, ¬Marked s f a i) : t[i]? = s[i]? := by
  obtain ⟨_, rfl, _⟩ := repairQuotes_eq_some_iff.mp h
  refine getElem?_foldl_mendMark fun f hf x y hx hxi => ?_
  obtain ⟨a, b, hm⟩ := marked_of_mem (mem_mismatches_iff.mp hf).1
  have hb : x = b := (Prod.mk.inj (Option.some.inj (hx.symm.trans hm.closing))).1
  rw [← hb, hxi] at hm
  exact hi f hf a hm

/-- No mark opens one match and closes another. -/
theorem opening_ne_closing (hf : f ∈ importQuotes.findAll s) (hg : g ∈ importQuotes.findAll s)
    (hm : Marked s f a b) (hm' : Marked s g a' a) : False := by
  have := hm.start_le
  have := hm.lt
  have := hm.stop_eq
  have := hm'.start_le
  have := hm'.lt
  have := hm'.stop_eq
  by_cases hfg : f = g
  · subst hfg
    have : a = b := by simpa using hm'.closing.symm.trans hm.closing
    omega
  · have := disjoint_of_mem_findAll hf hg hfg
    omega

/-- The closing mark of a match that is not paired becomes its opening mark. -/
theorem getElem?_repaired_closing (h : repairQuotes s = some (t, ls)) (hf : f ∈ mismatches s)
    (hm : Marked s f a b) : t[b]? = s[a]? := by
  obtain ⟨hunmarked, hpaired⟩ := paired_repaired h
  have hfs := (mem_mismatches_iff.mp hf).1
  have hopening : t[a]? = s[a]? := getElem?_repaired_of_not_closing h fun g hg _ hm' =>
    opening_ne_closing hfs (mem_mismatches_iff.mp hg).1 hm hm'
  rw [← hopening]
  exact ((paired_iff (marked_of_unmarked hunmarked hm hfs)).mp (hpaired f hfs)).symm

/-- **A repair changes the closing marks of the matches that are not paired, and nothing else.** -/
theorem differs_iff (h : repairQuotes s = some (t, ls)) :
    t[i]? ≠ s[i]? ↔ ∃ f ∈ mismatches s, ∃ a, Marked s f a i := by
  constructor
  · intro hd
    refine Classical.byContradiction fun hno => hd ?_
    exact getElem?_repaired_of_not_closing h fun f hf a hm => hno ⟨f, hf, a, hm⟩
  · rintro ⟨f, hf, a, hm⟩
    rw [getElem?_repaired_closing h hf hm]
    exact fun he => (mem_mismatches_iff.mp hf).2 ((paired_iff hm).mpr he)

/-! ## The lines of the changes -/

/-- The marks of a match stand on one line. -/
theorem Marked.lineAt_eq (hm : Marked s f a b) : lineAt s b = lineAt s a := by
  refine Text.lineAt_eq (Nat.le_of_lt hm.lt) fun i hai hib hfeed => ?_
  rcases Nat.lt_or_eq_of_le hai with hai | rfl
  · exact (hm.path i _ hai hib hfeed).2 rfl
  · obtain ⟨u, hu, hmark⟩ := hm.openingMark
    rw [hu] at hfeed
    rw [Option.some.inj hfeed] at hmark
    cases hmark

/-- **The lines that a repair reports are those of its changes.** -/
theorem mem_lines_iff (h : repairQuotes s = some (t, ls)) {n : Nat} :
    n ∈ ls ↔ ∃ i, t[i]? ≠ s[i]? ∧ lineAt s i = n := by
  obtain ⟨_, _, rfl⟩ := repairQuotes_eq_some_iff.mp h
  constructor
  · intro hn
    obtain ⟨f, hf, rfl⟩ := List.mem_map.mp hn
    obtain ⟨a, b, hm⟩ := marked_of_mem (mem_mismatches_iff.mp hf).1
    refine ⟨b, (differs_iff h).mpr ⟨f, hf, a, hm⟩, ?_⟩
    rw [hm.lineAt_eq, hm.openingMark_eq]
  · rintro ⟨i, hd, rfl⟩
    obtain ⟨f, hf, a, hm⟩ := (differs_iff h).mp hd
    exact List.mem_map.mpr ⟨f, hf, by rw [hm.lineAt_eq, hm.openingMark_eq]⟩

theorem ascending_lines (h : repairQuotes s = some (t, ls)) : ls.Pairwise (· ≤ ·) := by
  obtain ⟨_, _, rfl⟩ := repairQuotes_eq_some_iff.mp h
  refine List.pairwise_map.mpr (((pairwise_findAll importQuotes s).filter _).imp_of_mem ?_)
  intro f g hf hg hle
  obtain ⟨a, b, hm⟩ := marked_of_mem (mem_mismatches_iff.mp hf).1
  obtain ⟨a', b', hm'⟩ := marked_of_mem (mem_mismatches_iff.mp hg).1
  rw [hm.openingMark_eq, hm'.openingMark_eq]
  have := hm.lt
  have := hm.stop_eq
  have := hm'.start_le
  exact lineAt_le (by omega)

/-! ## A repair as a whole -/

/-- A mark takes up as much room as the other one. -/
theorem utf8ByteSize_unmarked (s : List Char) :
    (String.ofList (unmarked s)).utf8ByteSize = (String.ofList s).utf8ByteSize := by
  induction s with
  | nil => rfl
  | cons c s ih =>
      have hc : (unify '\'' '"' c).utf8Size = c.utf8Size := by
        unfold unify
        split
        · rename_i hc
          rw [hc]
          rfl
        · rfl
      rw [unmarked, List.map_cons, String.ofList_cons, String.ofList_cons, String.utf8ByteSize_append,
        String.utf8ByteSize_append, String.utf8ByteSize_singleton, String.utf8ByteSize_singleton, hc, ih]

/-- What a repair is that made one text of another and reports some lines. -/
structure Repaired (s t : List Char) (ls : List Nat) : Prop where
  fixed : repairQuotes t = none
  length_eq : t.length = s.length
  utf8ByteSize_eq : (String.ofList t).utf8ByteSize = (String.ofList s).utf8ByteSize
  /-- The texts differ at the closing marks of the matches whose marks differ, and nowhere else. -/
  differs_iff : ∀ i : Nat, t[i]? ≠ s[i]? ↔ ∃ f ∈ mismatches s, f.span? 4 = some (i, i + 1)
  /-- Where they differ, each has a mark. -/
  marks : ∀ i : Nat, t[i]? ≠ s[i]? → ∃ u v, s[i]? = some u ∧ t[i]? = some v ∧
    (u = '\'' ∨ u = '"') ∧ (v = '\'' ∨ v = '"')
  /-- The lines are those of the places where the texts differ. -/
  mem_lines_iff : ∀ n, n ∈ ls ↔ ∃ i : Nat, t[i]? ≠ s[i]? ∧ lineAt s i = n
  lines_ne_nil : ls ≠ []
  lines_ascending : ls.Pairwise (· ≤ ·)
  lines_pos : ∀ n ∈ ls, 1 ≤ n

/-- **Whatever a repair makes and reports is of this kind.** -/
theorem repaired_of_repairQuotes (h : repairQuotes s = some (t, ls)) : Repaired s t ls where
  fixed := repairQuotes_repaired h
  length_eq := by
    have := congrArg List.length (paired_repaired h).1
    rwa [List.length_map, List.length_map] at this
  utf8ByteSize_eq := by
    rw [← utf8ByteSize_unmarked t, (paired_repaired h).1, utf8ByteSize_unmarked]
  differs_iff i := by
    rw [Check.differs_iff h]
    refine exists_congr fun f => and_congr_right fun hf => ?_
    constructor
    · rintro ⟨a, hm⟩
      exact hm.closing
    · intro hi
      obtain ⟨a, b, hm⟩ := marked_of_mem (mem_mismatches_iff.mp hf).1
      have hb : i = b := by simpa using hi.symm.trans hm.closing
      exact ⟨a, hb ▸ hm⟩
  marks i hd := by
    obtain ⟨f, hf, a, hm⟩ := (Check.differs_iff h).mp hd
    obtain ⟨u, hu, hmu⟩ := hm.closingMark
    obtain ⟨v, hv, hmv⟩ := hm.openingMark
    refine ⟨u, v, hu, ?_, isMark_iff.mp hmu, isMark_iff.mp hmv⟩
    rw [getElem?_repaired_closing h hf hm, hv]
  mem_lines_iff _ := Check.mem_lines_iff h
  lines_ne_nil := by
    obtain ⟨hne, _, rfl⟩ := repairQuotes_eq_some_iff.mp h
    exact fun hnil => hne (List.map_eq_nil_iff.mp hnil)
  lines_ascending := ascending_lines h
  lines_pos n hn := by
    obtain ⟨i, _, rfl⟩ := (Check.mem_lines_iff h).mp hn
    exact lineAt_pos s i

end Check

end AppMend
