import AppMend.Check.Markup
import AppMend.Proofs.Text.Shapes

/-!
# Tags that are read by pattern

A pattern for tags reads an opening bracket, one of a few names, and all up to the next closing bracket, in
whatever value that stands. `TagAt` says where a text has such a tag, without a search: no other one begins
before it in the same stretch up to a closing bracket. The search finds these and no others
(`ReadsTags.mem_findAll_iff`).

So an image is reported exactly if the text `alt=` does not occur in it up to the next closing bracket
(`mem_imageIssues_iff`), and a control exactly if `class=` or `className=` does (`mem_controlIssues_iff`).
-/

namespace AppMend.Check

open Text Pattern
open Cursor (Walks Passes)

variable {names : List (List Char)} {p : Pattern} {groups : Nat → Nat → Nat → List (Nat × Nat × Nat)}
  {s t u v w a b name name' inner inner' : List Char} {c d : Cursor} {f : Found} {line : Nat}

/-! ## Tags -/

/-- A tag from its opening bracket to its closing one. -/
def tagText (name inner : List Char) : List Char := '<' :: (name ++ inner) ++ ['>']

/-- A name and what stands behind it are read as a tag: no word goes on, and the closing bracket is the first. -/
structure IsTag (names : List (List Char)) (name inner : List Char) : Prop where
  mem : name ∈ names
  edge : NoWord inner
  inner : '>' ∉ inner

/-- No name has a bracket, and none is the start of another. -/
def Apart (names : List (List Char)) : Prop := ∀ n ∈ names, '>' ∉ n ∧ ∀ n' ∈ names, n <+: n' → n = n'

instance (names : List (List Char)) : Decidable (Apart names) := List.decidableBAll _ _

/-- A text has a tag behind `a`, and none that begins before it goes on to its end. -/
structure TagAt (names : List (List Char)) (s a name inner b : List Char) : Prop where
  text : s = a ++ (tagText name inner ++ b)
  isTag : IsTag names name inner
  first : ∀ x z name' inner', a = x ++ z → IsTag names name' inner' →
    z ++ tagText name inner = tagText name' inner' → z = []

theorem IsTag.open_of_apart (h : IsTag names name inner) (hn : Apart names) :
    ∀ x ∈ '<' :: (name ++ inner), (x == '>') = false := by
  intro x hx
  refine beq_eq_false_iff_ne.mpr ?_
  rintro rfl
  rcases List.mem_cons.mp hx with hx | hx
  · exact absurd hx (by decide)
  · exact (List.mem_append.mp hx).elim (hn name h.mem).1 h.inner

/-- A text begins with one tag. -/
theorem tagText_inj (hn : Apart names) (h : IsTag names name inner) (h' : IsTag names name' inner')
    (heq : tagText name inner ++ b = tagText name' inner' ++ v) : name = name' ∧ inner = inner' ∧ b = v := by
  simp only [tagText, List.append_assoc, List.singleton_append] at heq
  obtain ⟨hstart, hrest⟩ := eq_of_first (h.open_of_apart hn) (h'.open_of_apart hn) rfl rfl heq
  have hstart := (List.cons.inj hstart).2
  have hname : name = name' := by
    rcases List.append_eq_append_iff.mp hstart with ⟨w, hw, _⟩ | ⟨w, hw, _⟩
    · exact (hn name h.mem).2 name' h'.mem ⟨w, hw.symm⟩
    · exact ((hn name' h'.mem).2 name h.mem ⟨w, hw.symm⟩).symm
  subst hname
  exact ⟨rfl, List.append_cancel_left hstart, hrest⟩

/-! ## Patterns that read tags -/

/-- A pattern matches the tags of some names, and remembers groups by where a tag begins and by how long its name
is and what stands behind it. -/
structure ReadsTags (p : Pattern) (names : List (List Char))
    (groups : Nat → Nat → Nat → List (Nat × Nat × Nat)) : Prop where
  apart : Apart names
  steady : p.isSteady = true
  sound : ∀ (a s : List Char) (d : Cursor), Matches p ⟨a.reverse, s, []⟩ d → ∃ name inner, IsTag names name inner ∧
    s = tagText name inner ++ d.rest ∧ d.offset = a.length + (tagText name inner).length ∧
      d.groups = groups a.length name.length inner.length
  complete : ∀ name inner, IsTag names name inner → ∀ a b : List Char,
    ∃ d, Matches p ⟨a.reverse, tagText name inner ++ b, []⟩ d

/-- What is found for a tag. -/
def tagFound (groups : Nat → Nat → Nat → List (Nat × Nat × Nat)) (a name inner : List Char) : Found :=
  ⟨a.length, a.length + (tagText name inner).length, groups a.length name.length inner.length⟩

theorem mem_of_between {x z : List Char} {y : Char} (h : x ++ (z ++ w) = u ++ y :: v) (hle : x.length ≤ u.length)
    (hlt : u.length < x.length + z.length) : y ∈ z := by
  have hy : (u ++ y :: v)[u.length]? = some y := by simp
  rw [← h, List.getElem?_append_right hle, List.getElem?_append_left (by omega)] at hy
  exact List.mem_of_getElem? hy

/-- What a search finds. -/
theorem ReadsTags.exists_of_mem_findAll (hp : ReadsTags p names groups) (h : f ∈ p.findAll s) :
    ∃ a name inner b, s = a ++ (tagText name inner ++ b) ∧ IsTag names name inner ∧
      f = tagFound groups a name inner := by
  obtain ⟨a, r, d, rfl, hm, rfl⟩ := matches_of_mem_findAll h
  obtain ⟨name, inner, ht, rfl, hstop, hgroups⟩ := hp.sound a r d hm
  exact ⟨a, name, inner, d.rest, rfl, ht, by rw [tagFound, hstop, hgroups]⟩

/-- Where a tag is written, a match begins, or one goes on that began before. -/
theorem ReadsTags.exists_mem_findAll (hp : ReadsTags p names groups) (h : IsTag names name inner)
    (a b : List Char) : ∃ f ∈ p.findAll (a ++ (tagText name inner ++ b)),
      f.start ≤ a.length ∧ (a.length < f.stop ∨ f.start = a.length) := by
  obtain ⟨d, hm⟩ := hp.complete name inner h a b
  exact exists_mem_findAll_at hp.steady hm

/-- **A search for a pattern of tags finds the tags of a text.** -/
theorem ReadsTags.mem_findAll_iff (hp : ReadsTags p names groups) : f ∈ p.findAll s ↔
    ∃ a name inner b, TagAt names s a name inner b ∧ f = tagFound groups a name inner := by
  constructor
  · intro h
    obtain ⟨a, name, inner, b, rfl, ht, rfl⟩ := hp.exists_of_mem_findAll h
    refine ⟨a, name, inner, b, ⟨rfl, ht, ?_⟩, rfl⟩
    rintro x z name' inner' rfl ht' heq
    refine Classical.byContradiction fun hz => ?_
    have hz := List.length_pos_iff.mpr hz
    -- a tag from the place before would overlap this one, so a match ends in between
    obtain ⟨g, hg, hle, hreach⟩ := hp.exists_mem_findAll ht' x b
    rw [← heq, List.append_assoc, ← List.append_assoc x] at hg
    have hdisjoint := disjoint_of_mem_findAll h hg (by
      rintro rfl
      simp only [tagFound, List.length_append] at hle
      omega)
    obtain ⟨a', name'', inner'', b', hs, _, rfl⟩ := hp.exists_of_mem_findAll hg
    simp only [tagFound, tagText, List.length_append, List.length_cons, List.length_nil] at hle hreach hdisjoint
    -- and its closing bracket stands in a tag before the end of that
    have hclosing : '>' ∈ z := by
      refine mem_of_between (x := x) (u := a' ++ '<' :: (name'' ++ inner'')) (v := b')
        (w := tagText name inner ++ b) ?_ ?_ ?_
      · simpa [tagText] using hs
      · simp only [List.length_append, List.length_cons]
        omega
      · simp only [List.length_append, List.length_cons]
        omega
    rw [tagText, ← List.append_assoc] at heq
    have hopen := List.append_cancel_right heq
    have := ht'.open_of_apart hp.apart '>' (hopen ▸ List.mem_append_left _ hclosing)
    cases this
  · rintro ⟨a, name, inner, b, ⟨rfl, ht, hfirst⟩, rfl⟩
    obtain ⟨f, hf, hle, hreach⟩ := hp.exists_mem_findAll ht a b
    obtain ⟨a', name', inner', b', hs, ht', rfl⟩ := hp.exists_of_mem_findAll hf
    simp only [tagFound] at hle hreach
    -- the match that is found begins at the tag or before it
    obtain ⟨z, rfl, hs⟩ := exists_append_of_le hs hle
    have hs : (z ++ '<' :: (name ++ inner)) ++ '>' :: b = '<' :: (name' ++ inner') ++ '>' :: b' := by
      simpa [tagText] using hs
    have hz : z <+: '<' :: (name' ++ inner') := by
      refine List.prefix_of_prefix_length_le ⟨_, by simpa using hs⟩ (List.prefix_append _ ('>' :: b')) ?_
      simp only [tagText, List.length_append, List.length_cons, List.length_nil] at hreach ⊢
      omega
    -- it goes on to the same closing bracket, so it is the tag
    have hopen' := ht'.open_of_apart hp.apart
    obtain ⟨hopen, rfl⟩ := eq_of_first (List.forall_mem_append.mpr
      ⟨fun x hx => hopen' x (hz.subset hx), ht.open_of_apart hp.apart⟩) hopen' rfl rfl hs
    obtain rfl := hfirst a' z name' inner' rfl ht' (by rw [tagText, tagText, ← hopen, List.append_assoc])
    have hsame : tagText name inner ++ [] = tagText name' inner' ++ [] := by
      rw [tagText, tagText, ← hopen]
      rfl
    obtain ⟨rfl, rfl, _⟩ := tagText_inj hp.apart ht ht' hsame
    simpa using hf

/-! ## Images and raw controls -/

def imageNames : List (List Char) := ["img".toList]

def controlNames : List (List Char) := ["button".toList, "input".toList]

theorem imageTag_eq : imageTag = .all [.chars "<img".toList, .wordEdge,
    .many (.one fun x => !">".toList.contains x), .chars ">".toList] := rfl

theorem rawControlTag_eq : rawControlTag = .all [.chars "<".toList,
    .group 1 (.any (controlNames.map .chars)), .wordEdge,
    .group 2 (.many (.one fun x => !">".toList.contains x)), .chars ">".toList] := rfl

theorem not_contains_end_iff : (∀ x ∈ u, (!">".toList.contains x) = true) ↔ '>' ∉ u := by
  constructor
  · intro h hmem
    simpa using h '>' hmem
  · intro h x hx
    simpa using ne_of_mem_of_not_mem hx h

theorem noWord_end_iff : NoWord (u ++ '>' :: v) ↔ NoWord u := by
  have hend : isWord '>' = false := by decide
  cases u <;> simp [NoWord, hend]

/-- Behind the name of a tag there is the edge of a word exactly if no word goes on. -/
theorem atWordEdge_name_iff (hname : name ∈ imageNames ++ controlNames) (h : Walks ('<' :: name) c d) :
    d.atWordEdge = true ↔ NoWord d.rest := by
  have hlast : ∀ n ∈ imageNames ++ controlNames, (n.getLast?.map isWord) = some true := by decide
  obtain ⟨x, hx, hword⟩ := Option.map_eq_some_iff.mp (hlast name hname)
  refine atWordEdge_iff_noWord ?_ hword
  simp [h.before_eq, List.head?_append, hx]

theorem readsTags_imageTag : ReadsTags imageTag imageNames fun _ _ _ => [] where
  apart := by decide
  steady := by decide
  sound := by
    intro a s d h
    simp only [imageTag_eq, matches_all_cons_iff, matches_all_nil_iff, matches_chars_iff, matches_wordEdge_iff,
      matches_many_one_iff, not_contains_end_iff] at h
    obtain ⟨c, hname, _, ⟨rfl, hedge⟩, e, ⟨inner, hinner, hrest⟩, _, hclosing, rfl⟩ := h
    have hpass : Passes (tagText "img".toList inner) _ _ := (hname.trans hrest).trans hclosing
    refine ⟨"img".toList, inner, ⟨by decide, ?_, hinner⟩, hpass.rest_eq, ?_, hpass.groups_eq⟩
    · rw [atWordEdge_name_iff (by decide : "img".toList ∈ _) hname.toWalks, hrest.rest_eq,
        hclosing.rest_eq] at hedge
      exact noWord_end_iff.mp hedge
    · rw [hpass.offset_eq, Cursor.offset, List.length_reverse]
  complete := by
    intro name inner h a b
    obtain rfl := List.mem_singleton.mp h.mem
    obtain ⟨e, hopen, hclosing⟩ := (Passes.of_rest (u := tagText "img".toList inner)
      (c := ⟨a.reverse, tagText "img".toList inner ++ b, []⟩) rfl).split
    obtain ⟨c, hname, hrest⟩ := Passes.split (u := "<img".toList) hopen
    have hedge := (atWordEdge_name_iff (by decide : "img".toList ∈ _) hname.toWalks).mpr
      (by rw [hrest.rest_eq, hclosing.rest_eq]; exact noWord_end_iff.mpr h.edge)
    simp only [imageTag_eq, matches_all_cons_iff, matches_all_nil_iff, matches_chars_iff, matches_wordEdge_iff,
      matches_many_one_iff, not_contains_end_iff]
    exact ⟨_, c, hname, c, ⟨rfl, hedge⟩, e, ⟨inner, h.inner, hrest⟩, _, hclosing, rfl⟩

/-- The name of a control is the first group, and what stands behind it is the second. -/
def controlGroups (a n m : Nat) : List (Nat × Nat × Nat) := [(2, a + 1 + n, a + 1 + n + m), (1, a + 1, a + 1 + n)]

theorem readsTags_rawControlTag : ReadsTags rawControlTag controlNames controlGroups where
  apart := by decide
  steady := by decide
  sound := by
    intro a s d h
    simp only [rawControlTag_eq, matches_all_cons_iff, matches_all_nil_iff, matches_chars_iff,
      matches_wordEdge_iff, matches_many_one_iff, matches_group_iff, matches_any_iff, List.mem_map,
      not_contains_end_iff] at h
    obtain ⟨c, hopening, _, ⟨e, ⟨_, ⟨name, hmem, rfl⟩, hname⟩, rfl⟩, _, ⟨rfl, hedge⟩, _,
      ⟨e', ⟨inner, hinner, hrest⟩, rfl⟩, _, hclosing, rfl⟩ := h
    have hname := matches_chars_iff.mp hname
    have hstart := (hopening.trans hname).toWalks.remember ((1, c.offset, e.offset) :: e.groups)
    have hopen := (hstart.trans hrest.toWalks).remember ((2, e.offset, e'.offset) :: e'.groups)
    have hwalks : Walks (tagText name inner) _ _ := hopen.trans hclosing.toWalks
    have hbegin : c.offset = a.length + 1 := by
      rw [hopening.offset_eq, Cursor.offset, List.length_reverse]
      rfl
    have hnameEnd : e.offset = a.length + 1 + name.length := by rw [hname.offset_eq, hbegin]
    have hinnerEnd : e'.offset = a.length + 1 + name.length + inner.length := by
      rw [hrest.offset_eq, ← hnameEnd]
      rfl
    refine ⟨name, inner, ⟨hmem, ?_, hinner⟩, hwalks.rest_eq, ?_, ?_⟩
    · rw [atWordEdge_name_iff (List.mem_append_right _ hmem) hstart, hrest.rest_eq] at hedge
      exact noWord_end_iff.mp (hclosing.rest_eq ▸ hedge)
    · rw [hwalks.offset_eq, Cursor.offset, List.length_reverse]
    · have hgroups : d.groups = [(2, e.offset, e'.offset), (1, c.offset, e.offset)] := by
        rw [hclosing.groups_eq, hrest.groups_eq, hname.groups_eq, hopening.groups_eq]
        rfl
      rw [hgroups, hinnerEnd, hnameEnd, hbegin]
      rfl
  complete := by
    intro name inner h a b
    obtain ⟨c₁, hopening, h₁⟩ := (Passes.of_rest (u := ['<'] ++ (name ++ (inner ++ ['>'])))
      (c := ⟨a.reverse, tagText name inner ++ b, []⟩) (s := b) (by simp [tagText])).split
    obtain ⟨c₂, hname, h₂⟩ := h₁.split
    -- each group is remembered behind its end
    obtain ⟨c₃, hrest, h₃⟩ := (Passes.of_rest (c := { c₂ with groups := (1, c₁.offset, c₂.offset) :: c₂.groups })
      h₂.rest_eq).split
    have hclosing := Passes.of_rest (c := { c₃ with groups := (2, c₂.offset, c₃.offset) :: c₃.groups }) h₃.rest_eq
    have hedge := (atWordEdge_name_iff (List.mem_append_right _ h.mem) (hopening.trans hname).toWalks).mpr (by
      rw [h₂.rest_eq, List.append_assoc]
      exact noWord_end_iff.mpr h.edge)
    simp only [rawControlTag_eq, matches_all_cons_iff, matches_all_nil_iff, matches_chars_iff,
      matches_wordEdge_iff, matches_many_one_iff, matches_group_iff, matches_any_iff, List.mem_map,
      not_contains_end_iff]
    exact ⟨_, c₁, hopening, _, ⟨c₂, ⟨_, ⟨name, h.mem, rfl⟩, matches_chars_iff.mpr hname⟩, rfl⟩, _, ⟨rfl, hedge⟩, _,
      ⟨c₃, ⟨inner, h.inner, hrest⟩, rfl⟩, _, hclosing, rfl⟩

/-! ## Issues of a text -/

/-- What lacks a character does not reach across it. -/
theorem infix_append_cons_iff {x : Char} (hx : x ∉ w) : w <:+: u ++ x :: v ↔ w <:+: u ∨ w <:+: v := by
  have hstart {z : List Char} (hz : x ∉ z) (h : z <+: x :: v) : z = [] := by
    rcases List.prefix_cons_iff.mp h with rfl | ⟨z, rfl, _⟩
    · rfl
    · exact absurd List.mem_cons_self hz
  rw [List.infix_append_iff, List.infix_cons_iff]
  constructor
  · rintro (h | (h | h) | ⟨w₁, w₂, rfl, h₁, h₂⟩)
    · exact .inl h
    · rw [hstart hx h]
      exact .inl List.nil_infix
    · exact .inr h
    · rw [hstart (fun h => hx (List.mem_append_right _ h)) h₂, List.append_nil]
      exact .inl h₁.isInfix
  · rintro (h | h)
    · exact .inl h
    · exact .inr (.inl (.inr h))

theorem text_tagFound (groups : Nat → Nat → Nat → List (Nat × Nat × Nat)) :
    (tagFound groups a name inner).text (a ++ (tagText name inner ++ b)) = tagText name inner :=
  stretch_append a (tagText name inner) b

/-- `alt=` is looked for in the whole tag, and its name has none of it. -/
theorem alt_infix_tagText_iff : "alt=".toList <:+: tagText "img".toList inner ↔ "alt=".toList <:+: inner := by
  have htext : tagText "img".toList inner = "<im".toList ++ 'g' :: (inner ++ '>' :: []) := rfl
  have hname : ¬"alt=".toList <:+: "<im".toList := by decide
  have hend : ¬"alt=".toList <:+: [] := by decide
  rw [htext, infix_append_cons_iff (by decide), infix_append_cons_iff (by decide)]
  simp only [hname, hend, false_or, or_false]

/-- **An image is reported where a tag of one stands without `alt=` up to the next closing bracket.** -/
theorem mem_imageIssues_iff : .imageWithoutAlt line ∈ patternIssues s ↔
    ∃ a name inner b, TagAt imageNames s a name inner b ∧ ¬"alt=".toList <:+: inner ∧
      lineAt s a.length = line := by
  have hfound : .imageWithoutAlt line ∈ patternIssues s ↔ ∃ f ∈ imageTag.findAll s,
      occursIn "alt=".toList (f.text s) = false ∧ lineAt s f.start = line := by
    simp only [patternIssues, List.mem_append, List.mem_map, List.mem_filter, reduceCtorEq, and_false,
      exists_false, or_false, MarkupIssue.imageWithoutAlt.injEq, Bool.not_eq_true', and_assoc]
    rfl
  have halt {name inner a b : List Char} (h : TagAt imageNames s a name inner b) :
      occursIn "alt=".toList ((tagFound (fun _ _ _ => []) a name inner).text s) = false ↔
        ¬"alt=".toList <:+: inner := by
    obtain rfl := List.mem_singleton.mp h.isTag.mem
    rw [h.text, text_tagFound, ← Bool.not_eq_true, occursIn_iff, alt_infix_tagText_iff]
  rw [hfound]
  constructor
  · rintro ⟨f, hf, hnone, hline⟩
    obtain ⟨a, name, inner, b, hat, rfl⟩ := readsTags_imageTag.mem_findAll_iff.mp hf
    exact ⟨a, name, inner, b, hat, (halt hat).mp hnone, hline⟩
  · rintro ⟨a, name, inner, b, hat, hnone, hline⟩
    exact ⟨_, readsTags_imageTag.mem_findAll_iff.mpr ⟨a, name, inner, b, hat, rfl⟩, (halt hat).mpr hnone, hline⟩

theorem group_tagFound_name :
    (tagFound controlGroups a name inner).group (a ++ (tagText name inner ++ b)) 1 = name := by
  have htext : a ++ (tagText name inner ++ b) = (a ++ ['<']) ++ (name ++ (inner ++ '>' :: b)) := by simp [tagText]
  rw [htext]
  simpa [Found.group, Found.span?, tagFound, controlGroups] using
    stretch_append (a ++ ['<']) name (inner ++ '>' :: b)

theorem group_tagFound_inner :
    (tagFound controlGroups a name inner).group (a ++ (tagText name inner ++ b)) 2 = inner := by
  have htext : a ++ (tagText name inner ++ b) = (a ++ '<' :: name) ++ (inner ++ '>' :: b) := by simp [tagText]
  have hlength : a.length + 1 + name.length = (a ++ '<' :: name).length := by simp; omega
  rw [htext]
  simp only [Found.group, Found.span?, tagFound, controlGroups, hlength]
  exact stretch_append (a ++ '<' :: name) inner ('>' :: b)

/-- **A control is reported where a tag of one stands with `class=` or `className=` up to the next closing
bracket.** -/
theorem mem_controlIssues_iff {tag : String} : .rawControl tag line ∈ patternIssues s ↔
    ∃ a name inner b, TagAt controlNames s a name inner b ∧
      ("className=".toList <:+: inner ∨ "class=".toList <:+: inner) ∧ String.ofList name = tag ∧
        lineAt s a.length = line := by
  have hfound : .rawControl tag line ∈ patternIssues s ↔ ∃ f ∈ rawControlTag.findAll s,
      (occursIn "className=".toList (f.group s 2) = true ∨ occursIn "class=".toList (f.group s 2) = true) ∧
        String.ofList (f.group s 1) = tag ∧ lineAt s f.start = line := by
    simp only [patternIssues, List.mem_append, List.mem_map, List.mem_filter, reduceCtorEq, and_false,
      exists_false, false_or, MarkupIssue.rawControl.injEq, Bool.or_eq_true, and_assoc]
    rfl
  rw [hfound]
  simp only [readsTags_rawControlTag.mem_findAll_iff, occursIn_iff]
  constructor
  · rintro ⟨f, ⟨a, name, inner, b, hat, rfl⟩, hclass, htag, hline⟩
    rw [hat.text, group_tagFound_inner] at hclass
    rw [hat.text, group_tagFound_name] at htag
    exact ⟨a, name, inner, b, hat, hclass, htag, hline⟩
  · rintro ⟨a, name, inner, b, hat, hclass, htag, hline⟩
    refine ⟨_, ⟨a, name, inner, b, hat, rfl⟩, ?_, ?_, hline⟩
    · rwa [hat.text, group_tagFound_inner]
    · rwa [hat.text, group_tagFound_name]

end AppMend.Check
