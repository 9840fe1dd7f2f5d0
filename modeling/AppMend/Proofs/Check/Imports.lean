import AppMend.Check.Markup
import AppMend.Proofs.Check.Quotes
import AppMend.Proofs.Text.Shapes

/-!
# Imports that are read by pattern

An import is a head from `import` to `from` and a source between quotation marks. Whatever the pattern finds
is written so (`written_of_mem_findAll`). It finds what is written so, wherever it stands
(`exists_mem_importsOf`), unless it stands in the source of an import before it whose closing mark is missing.

A head has no mark in it. So the first mark behind the start of an import opens its source, and the next one
closes it, in whatever way the head is taken apart.
-/

namespace AppMend.Check

open Text Pattern
open Cursor (Walks Passes)

variable {s t u v w a b source : List Char} {q q' x : Char} {c d e : Cursor} {f : Found}

/-! ## Imports as they are written -/

/-- A character between `import` and `from`. -/
def isBinding (x : Char) : Bool := !";'\"".toList.contains x

/-- What stands before the source of an import. -/
def ImportHead (u : List Char) : Prop :=
  ∃ gap w gap', u = "import".toList ++ (gap ++ (w ++ ("from".toList ++ gap'))) ∧ gap ≠ [] ∧
    (∀ x ∈ gap, isBlank x = true) ∧ (∀ x ∈ w, isBinding x = true) ∧ ∀ x ∈ gap', isBlank x = true

/-- An import: its head, and its source between two marks. -/
structure ImportText (t u source : List Char) : Prop where
  head : ImportHead u
  ne_nil : source ≠ []
  inner : ∀ x ∈ source, isMark x = false
  text : ∃ q q', isMark q = true ∧ isMark q' = true ∧ t = u ++ q :: (source ++ [q'])

/-- A text ends in the source of an import, before its closing mark. -/
def LeavesOpen (a : List Char) : Prop :=
  ∃ b u q v, a = b ++ (u ++ q :: v) ∧ EndsNoWord b ∧ ImportHead u ∧ isMark q = true ∧ ∀ x ∈ v, isMark x = false

/-- An import of a source is written in a text. -/
def WritesImport (s source : List Char) : Prop :=
  ∃ a t u b, s = a ++ (t ++ b) ∧ EndsNoWord a ∧ ImportText t u source

/-- A text has an import of a source, and not within the source of an import before it. -/
def Imports (s source : List Char) : Prop :=
  ∃ a t u b, s = a ++ (t ++ b) ∧ EndsNoWord a ∧ ImportText t u source ∧ ¬LeavesOpen a

/-! ## Marks -/

theorem isMark_of_isBlank (h : isBlank x = true) : isMark x = false := by
  refine Bool.eq_false_iff.mpr fun hmark => ?_
  rcases isMark_iff.mp hmark with rfl | rfl <;> revert h <;> decide

theorem isMark_of_isBinding (h : isBinding x = true) : isMark x = false := by
  refine Bool.eq_false_iff.mpr fun hmark => ?_
  rcases isMark_iff.mp hmark with rfl | rfl <;> revert h <;> decide

theorem isBinding_of_isBlank (h : isBlank x = true) : isBinding x = true := by
  unfold isBinding
  rw [Bool.not_eq_true', Bool.eq_false_iff]
  intro hmem
  have hx : x = ';' ∨ x = '\'' ∨ x = '"' := by simpa using hmem
  rcases hx with rfl | rfl | rfl <;> revert h <;> decide

theorem ImportHead.isMark_of_mem (h : ImportHead u) : ∀ x ∈ u, isMark x = false := by
  obtain ⟨gap, w, gap', rfl, _, hgap, hw, hgap'⟩ := h
  have himport : ∀ x ∈ "import".toList, isMark x = false := forall_of_all (by decide)
  have hfrom : ∀ x ∈ "from".toList, isMark x = false := forall_of_all (by decide)
  simp only [List.forall_mem_append]
  exact ⟨himport, fun x hx => isMark_of_isBlank (hgap x hx), fun x hx => isMark_of_isBinding (hw x hx), hfrom,
    fun x hx => isMark_of_isBlank (hgap' x hx)⟩

theorem ImportHead.ne_nil (h : ImportHead u) : u ≠ [] := by
  obtain ⟨gap, w, gap', rfl, _⟩ := h
  exact List.cons_ne_nil _ _

/-- A text without marks, or what stands before its first mark and behind it. -/
theorem first_mark (s : List Char) : (∀ x ∈ s, isMark x = false) ∨
    ∃ u q v, s = u ++ q :: v ∧ isMark q = true ∧ ∀ x ∈ u, isMark x = false := by
  cases h : s.find? isMark with
  | none => exact .inl fun x hx => by simpa using List.find?_eq_none.mp h x hx
  | some q =>
      obtain ⟨hq, u, v, rfl, hu⟩ := List.find?_eq_some_iff_append.mp h
      exact .inr ⟨u, q, v, rfl, hq, fun x hx => by simpa using hu x hx⟩

/-! ## The pattern -/

/-- The parts of the pattern up to the source. -/
def headParts : List Pattern := [.chars "import".toList, .some1 (.one isBlank),
  .opt (.all [.chars "type".toList, .some1 (.one isBlank)]), .group 1 (.few (.one isBinding)),
  .many (.one isBlank), .chars "from".toList, .many (.one isBlank)]

/-- The parts of the pattern for the source and its marks. -/
def sourceParts : List Pattern := [.one isMark, .group 2 (.some1 (.one fun x => !isMark x)), .one isMark]

theorem isSteady_importFrom : importFrom.isSteady = true := by decide

theorem importFrom_eq : importFrom = .all (.wordEdge :: (headParts ++ sourceParts)) := rfl

/-- The word `type` behind `import` counts as a part of what stands before `from`. -/
theorem binding_of_type (h : Matches (.opt (.all [.chars "type".toList, .some1 (.one isBlank)])) c d) :
    ∃ y, (∀ x ∈ y, isBinding x = true) ∧ Passes y c d := by
  rcases matches_opt_iff.mp h with h | rfl
  · obtain ⟨_, htype, h⟩ := matches_all_cons_iff.mp h
    obtain ⟨_, hblanks, h⟩ := matches_all_cons_iff.mp h
    obtain rfl := matches_all_nil_iff.mp h
    obtain ⟨gap, _, hgap, hpass⟩ := matches_some1_one_iff.mp hblanks
    have htext : ∀ x ∈ "type".toList, isBinding x = true := forall_of_all (by decide)
    exact ⟨"type".toList ++ gap, List.forall_mem_append.mpr ⟨htext, fun x hx => isBinding_of_isBlank (hgap x hx)⟩,
      (matches_chars_iff.mp htype).trans hpass⟩
  · exact ⟨[], by simp, .refl _⟩

theorem head_of_matches (h : Matches (.all headParts) c d) : ∃ u, ImportHead u ∧ Walks u c d := by
  simp only [headParts, matches_all_cons_iff, matches_all_nil_iff, matches_chars_iff, matches_some1_one_iff,
    matches_group_iff, matches_few_one_iff, matches_many_one_iff] at h
  obtain ⟨c₁, hImport, c₂, ⟨gap, hne, hgap, hGap⟩, c₃, hType, _, ⟨c₄, ⟨w, hw, hBinding⟩, rfl⟩,
    c₅, ⟨z, hz, hBlanks⟩, c₆, hFrom, _, ⟨gap', hgap', hGap'⟩, rfl⟩ := h
  obtain ⟨y, hy, hType⟩ := binding_of_type hType
  have hfirst := (hImport.trans (hGap.trans (hType.trans hBinding))).toWalks.remember
    ((1, c₃.offset, c₄.offset) :: c₄.groups)
  have hsecond := (hBlanks.trans (hFrom.trans hGap')).toWalks
  refine ⟨_, ⟨gap, (y ++ w) ++ z, gap', rfl, hne, hgap, ?_, hgap'⟩, by simpa using hfirst.trans hsecond⟩
  simp only [List.forall_mem_append]
  exact ⟨⟨hy, hw⟩, fun x hx => isBinding_of_isBlank (hz x hx)⟩

theorem matches_of_head (hu : ImportHead u) (h : c.rest = u ++ s) :
    ∃ d, Matches (.all headParts) c d ∧ Walks u c d := by
  obtain ⟨gap, w, gap', rfl, hne, hgap, hw, hgap'⟩ := hu
  obtain ⟨c₁, hImport, h₁⟩ := (Passes.of_rest h).split
  obtain ⟨c₂, hGap, h₂⟩ := h₁.split
  obtain ⟨c₃, hBinding, h₃⟩ := h₂.split
  obtain ⟨c₄, hFrom, hGap'⟩ := (Passes.of_rest (c := { c₃ with groups := (1, c₂.offset, c₃.offset) :: c₃.groups })
    h₃.rest_eq).split
  have hfirst := (hImport.trans (hGap.trans hBinding)).toWalks.remember ((1, c₂.offset, c₃.offset) :: c₃.groups)
  have hwalks := hfirst.trans (hFrom.trans hGap').toWalks
  rw [List.append_assoc, List.append_assoc] at hwalks
  refine ⟨_, ?_, hwalks⟩
  simp only [headParts, matches_all_cons_iff, matches_all_nil_iff, matches_chars_iff, matches_some1_one_iff,
    matches_group_iff, matches_few_one_iff, matches_many_one_iff, matches_opt_iff]
  exact ⟨c₁, hImport, c₂, ⟨gap, hne, hgap, hGap⟩, c₂, .inr rfl, _, ⟨c₃, ⟨w, hw, hBinding⟩, rfl⟩,
    _, ⟨[], by simp, .refl _⟩, c₄, hFrom, _, ⟨gap', hgap', hGap'⟩, rfl⟩

theorem source_of_matches (h : Matches (.all sourceParts) c d) :
    ∃ q source q', isMark q = true ∧ source ≠ [] ∧ (∀ x ∈ source, isMark x = false) ∧ isMark q' = true ∧
      Walks (q :: (source ++ [q'])) c d ∧
        d.groups = (2, c.offset + 1, c.offset + 1 + source.length) :: c.groups := by
  simp only [sourceParts, matches_all_cons_iff, matches_all_nil_iff, matches_one_iff, matches_group_iff,
    matches_some1_one_iff, Bool.not_eq_true'] at h
  obtain ⟨c₁, ⟨q, hq, hOpening⟩, _, ⟨c₂, ⟨source, hne, hinner, hSource⟩, rfl⟩, _, ⟨q', hq', hClosing⟩, rfl⟩ := h
  have hfirst := (hOpening.trans hSource).toWalks.remember ((2, c₁.offset, c₂.offset) :: c₂.groups)
  refine ⟨q, source, q', hq, hne, hinner, hq', hfirst.trans hClosing.toWalks, ?_⟩
  rw [hClosing.groups_eq, hSource.offset_eq, hSource.groups_eq, hOpening.offset_eq, hOpening.groups_eq]
  rfl

theorem matches_of_source (hq : isMark q = true) (hne : source ≠ []) (hinner : ∀ x ∈ source, isMark x = false)
    (hq' : isMark q' = true) (h : c.rest = q :: (source ++ [q']) ++ s) : ∃ d, Matches (.all sourceParts) c d := by
  obtain ⟨c₁, hOpening, h₁⟩ := (Passes.of_rest h).split (u := [q])
  obtain ⟨c₂, hSource, h₂⟩ := h₁.split
  have hClosing := Passes.of_rest (c := { c₂ with groups := (2, c₁.offset, c₂.offset) :: c₂.groups }) h₂.rest_eq
  simp only [sourceParts, matches_all_cons_iff, matches_all_nil_iff, matches_one_iff, matches_group_iff,
    matches_some1_one_iff, Bool.not_eq_true']
  exact ⟨_, c₁, ⟨q, hq, hOpening⟩, _, ⟨c₂, ⟨source, hne, hinner, hSource⟩, rfl⟩, _, ⟨q', hq', hClosing⟩, rfl⟩

/-- Before the head of an import there is the edge of a word exactly if no word ends there. -/
theorem atWordEdge_head (hu : ImportHead u) :
    Cursor.atWordEdge ⟨a.reverse, u ++ s, []⟩ = true ↔ EndsNoWord a := by
  obtain ⟨gap, w, gap', rfl, _⟩ := hu
  rw [atWordEdge_iff_endsNoWord (x := 'i') rfl (by decide), List.reverse_reverse]

/-- **What the pattern matches is written as an import.** -/
theorem written_of_matches (h : Matches importFrom ⟨a.reverse, s, []⟩ d) :
    EndsNoWord a ∧ ∃ t u source, s = t ++ d.rest ∧ ImportText t u source ∧ d.offset = a.length + t.length ∧
      d.groups.find? (·.1 == 2) =
        some (2, a.length + u.length + 1, a.length + u.length + 1 + source.length) := by
  rw [importFrom_eq, matches_all_cons_iff] at h
  obtain ⟨_, hEdge, h⟩ := h
  obtain ⟨rfl, hedge⟩ := matches_wordEdge_iff.mp hEdge
  obtain ⟨e, hHead, hSource⟩ := matches_all_append_iff.mp h
  obtain ⟨u, hu, walkHead⟩ := head_of_matches hHead
  obtain ⟨q, source, q', hq, hne, hinner, hq', walkSource, hgroups⟩ := source_of_matches hSource
  obtain rfl : s = u ++ e.rest := walkHead.rest_eq
  have hstart : e.offset = a.length + u.length := by
    rw [walkHead.offset_eq, Cursor.offset, List.length_reverse]
  refine ⟨(atWordEdge_head hu).mp hedge, u ++ q :: (source ++ [q']), u, source,
    by rw [walkSource.rest_eq, List.append_assoc], ⟨hu, hne, hinner, q, q', hq, hq', rfl⟩, ?_, ?_⟩
  · rw [walkSource.offset_eq, hstart, List.length_append, Nat.add_assoc]
  · rw [hgroups, hstart]
    rfl

/-- **The pattern matches an import that is written.** -/
theorem matches_of_written (ha : EndsNoWord a) (ht : ImportText t u source) :
    ∃ d, Matches importFrom ⟨a.reverse, t ++ b, []⟩ d := by
  obtain ⟨hu, hne, hinner, q, q', hq, hq', rfl⟩ := ht
  rw [List.append_assoc]
  obtain ⟨c, hHead, walkHead⟩ :=
    matches_of_head (c := ⟨a.reverse, u ++ (q :: (source ++ [q']) ++ b), []⟩) hu rfl
  obtain ⟨d, hSource⟩ := matches_of_source hq hne hinner hq' (List.append_cancel_left walkHead.rest_eq).symm
  refine ⟨d, ?_⟩
  rw [importFrom_eq, matches_all_cons_iff]
  exact ⟨_, matches_wordEdge_iff.mpr ⟨rfl, (atWordEdge_head hu).mpr ha⟩,
    matches_all_append_iff.mpr ⟨c, hHead, hSource⟩⟩

/-! ## The imports of a text -/

/-- What a search for the pattern finds. -/
theorem written_of_mem_findAll (h : f ∈ importFrom.findAll s) : ∃ a t u b source, s = a ++ (t ++ b) ∧
    EndsNoWord a ∧ ImportText t u source ∧ f.start = a.length ∧ f.stop = a.length + t.length ∧
      f.group s 2 = source := by
  obtain ⟨a, r, d, rfl, hm, rfl⟩ := matches_of_mem_findAll h
  obtain ⟨ha, t, u, source, rfl, ht, hstop, hgroup⟩ := written_of_matches hm
  refine ⟨a, t, u, d.rest, source, rfl, ha, ht, rfl, hstop, ?_⟩
  obtain ⟨_, _, _, q, q', _, _, rfl⟩ := ht
  have htext : a ++ (u ++ q :: (source ++ [q']) ++ d.rest) = (a ++ u ++ [q]) ++ (source ++ q' :: d.rest) := by
    simp
  have hstart : a.length + u.length + 1 = (a ++ u ++ [q]).length := by simp [Nat.add_assoc]
  simp only [Found.group, Found.span?, hgroup, Option.map_some]
  rw [htext, hstart, stretch_append]

theorem writesImport_of_mem_importsOf {i : Import} (h : i ∈ importsOf s) : WritesImport s i.source := by
  obtain ⟨f, hf, rfl⟩ := List.mem_map.mp h
  obtain ⟨a, t, u, b, source, hs, ha, ht, _, _, hsource⟩ := written_of_mem_findAll hf
  exact ⟨a, t, u, b, hs, ha, hsource ▸ ht⟩

/-- **Every import of a text is found.** -/
theorem exists_mem_importsOf (h : Imports s source) : ∃ i ∈ importsOf s, i.source = source := by
  obtain ⟨a, t, u, b, rfl, ha, ht, hclosed⟩ := h
  obtain ⟨d, hm⟩ := matches_of_written (b := b) ha ht
  obtain ⟨f, hf, hle, hreach⟩ := exists_mem_findAll_at isSteady_importFrom hm
  obtain ⟨a', t', u', b', source', hs, ha', ht', hstart, hstop, hsource⟩ := written_of_mem_findAll hf
  refine ⟨_, List.mem_map_of_mem hf, hsource.trans ?_⟩
  rw [hstart] at hle hreach
  rw [hstop] at hreach
  -- the match that is found begins at the import or before it
  obtain ⟨z, rfl, hs⟩ := exists_append_of_le hs hle
  obtain ⟨hu, _, hinner, q, q', hq, hq', rfl⟩ := ht
  obtain ⟨hu', _, hinner', r, r', hr, hr', rfl⟩ := ht'
  have hs : z ++ (u ++ q :: (source ++ q' :: b)) = u' ++ r :: (source' ++ r' :: b') := by
    simpa using hs
  rcases first_mark z with hz | ⟨v, p, w, rfl, hp, hv⟩
  · -- both have the same first mark
    rw [← List.append_assoc] at hs
    have hhead := List.forall_mem_append.mpr ⟨hz, hu.isMark_of_mem⟩
    obtain ⟨_, hs⟩ := eq_of_first hhead hu'.isMark_of_mem hq hr hs
    exact (eq_of_first hinner hinner' hq' hr' hs).1.symm
  · rw [List.append_assoc, List.cons_append] at hs
    obtain ⟨rfl, hrest⟩ := eq_of_first hv hu'.isMark_of_mem hp hr hs
    rcases first_mark w with hw | ⟨x, p', y, rfl, hp', hx⟩
    · -- the import stands in the source of the one before it
      exact absurd ⟨a', v, p, w, rfl, ha', hu', hp, hw⟩ hclosed
    · -- the one before it ends before the import
      rw [List.append_assoc, List.cons_append] at hrest
      obtain ⟨rfl, _⟩ := eq_of_first hx hinner' hp' hr' hrest
      simp only [List.length_append, List.length_cons, List.length_nil] at hreach
      omega

/-! ## Imports at the start of a text -/

/-- An import of bindings, with single blanks and single quotation marks. -/
theorem importText_of_bindings (hw : ∀ x ∈ w, isBinding x = true) (hne : source ≠ [])
    (hinner : ∀ x ∈ source, isMark x = false) :
    ImportText ("import ".toList ++ (w ++ (" from ".toList ++ '\'' :: (source ++ ['\'']))))
      ("import ".toList ++ (w ++ " from ".toList)) source where
  head := by
    have hblank : ∀ x ∈ [' '], isBlank x = true := forall_of_all (by decide)
    refine ⟨[' '], w ++ [' '], [' '], by simp, by simp, hblank, ?_, hblank⟩
    exact List.forall_mem_append.mpr ⟨hw, fun x hx => isBinding_of_isBlank (hblank x hx)⟩
  ne_nil := hne
  inner := hinner
  text := ⟨'\'', '\'', by decide, by decide, by simp⟩

theorem imports_of_text (hs : s = t ++ b) (ht : ImportText t u source) : Imports s source := by
  have hstart : EndsNoWord [] := fun x hx => by cases hx
  have hclosed : ¬LeavesOpen [] := by
    rintro ⟨_, _, _, _, hnil, _⟩
    simp at hnil
  exact ⟨[], t, u, b, hs, hstart, ht, hclosed⟩

/-- A text without marks has no import. -/
theorem not_writesImport_of_unmarked (hs : ∀ x ∈ s, isMark x = false) : ¬WritesImport s source := by
  rintro ⟨a, _, u, b, rfl, _, _, _, _, q, q', hq, _, rfl⟩
  rw [hs q (by simp)] at hq
  cases hq

end AppMend.Check
