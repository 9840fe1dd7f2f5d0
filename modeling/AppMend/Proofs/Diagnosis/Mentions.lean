import AppMend.Diagnosis
import AppMend.Proofs.Text.Shapes

/-!
# Paths that a message mentions

What a message mentions are the stretches that look like a path: characters that a path is made of as a rule,
then a point and one of a few extensions. `MentionAt` says which stretches these are, without a search: one
begins where no such character stands before it, and is as long as it can be. The search for the pattern
finds these and no others (`mem_mentions_iff`), since it starts from the left and takes as many characters as
lead to an extension.
-/

namespace AppMend.Diagnosis

open Text Pattern
open Cursor (Passes)

variable {m a b s : List Char} {c d : Cursor} {f : Found} {mention : String}

/-! ## What looks like a path -/

def extensions : List String := ["tsx", "ts", "jsx", "js", "mjs", "cjs", "css", "json"]

/-- Characters of a path, then a point and an extension. -/
def PathLike (m : List Char) : Prop :=
  ∃ stem, ∃ ext ∈ extensions, stem ≠ [] ∧ (∀ c ∈ stem, isPathPart c = true) ∧ m = stem ++ '.' :: ext.toList

/-- A stretch between two texts that is mentioned: one that looks like a path, begins with the characters of a
path that stand there, ends with a word, and cannot be longer. -/
structure MentionAt (a m b : List Char) : Prop where
  begins : ∀ c ∈ a.getLast?, isPathPart c = false
  pathLike : PathLike m
  ends : NoWord b
  longest : ∀ w z, b = w ++ z → PathLike (m ++ w) → NoWord z → w = []

theorem isPathPart_of_isWord {c : Char} (h : isWord c = true) : isPathPart c = true := by
  rw [isPathPart, h]
  rfl

theorem isWord_of_mem_extension {ext : String} (h : ext ∈ extensions) : ∀ c ∈ ext.toList, isWord c = true := by
  refine forall_of_all ?_
  revert ext
  decide

theorem getLast?_extension {ext : String} (h : ext ∈ extensions) :
    ∃ c, ext.toList.getLast? = some c ∧ isWord c = true := by
  have hmap : ext.toList.getLast?.map isWord = some true := by
    revert ext
    decide
  obtain ⟨c, hc, hword⟩ := Option.map_eq_some_iff.mp hmap
  exact ⟨c, hc, hword⟩

theorem PathLike.isPathPart_of_mem (h : PathLike m) : ∀ c ∈ m, isPathPart c = true := by
  obtain ⟨stem, ext, hext, _, hstem, rfl⟩ := h
  intro c hc
  rcases List.mem_append.mp hc with hc | hc
  · exact hstem c hc
  · rcases List.mem_cons.mp hc with rfl | hc
    · decide
    · exact isPathPart_of_isWord (isWord_of_mem_extension hext c hc)

theorem PathLike.ne_nil (h : PathLike m) : m ≠ [] := by
  obtain ⟨stem, ext, _, hne, _, rfl⟩ := h
  simp [hne]

/-- More characters of a path may stand in front. -/
theorem PathLike.append_left (h : PathLike m) (ha : ∀ c ∈ a, isPathPart c = true) : PathLike (a ++ m) := by
  obtain ⟨stem, ext, hext, hne, hstem, rfl⟩ := h
  refine ⟨a ++ stem, ext, hext, by simp [hne], fun c hc => ?_, by simp⟩
  exact (List.mem_append.mp hc).elim (ha c) (hstem c)

/-- Of two readings of one text, the one that goes on behind the end of a word has the longer stem. -/
theorem stem_longer {stem stem' ext ext' w : List Char} (hw : w ≠ []) (hends : NoWord w)
    (hext' : ∀ c ∈ ext', isWord c = true) (h : stem ++ '.' :: ext ++ w = stem' ++ '.' :: ext') :
    ∃ t, t ≠ [] ∧ stem' = stem ++ t := by
  obtain ⟨c, w, rfl⟩ := List.exists_cons_of_ne_nil hw
  have hc : isWord c = false := hends c rfl
  rw [List.append_assoc] at h
  -- with the same stem, the extension would go on with a character that is none of a word
  have hsame (he : '.' :: ext ++ c :: w = '.' :: ext') : False := by
    have hmem : c ∈ ext' := by
      rw [← (List.cons.inj he).2]
      simp
    rw [hext' c hmem] at hc
    cases hc
  rcases List.append_eq_append_iff.mp h with ⟨t, hstem, hrest⟩ | ⟨t, hstem, hrest⟩
  · refine ⟨t, ?_, hstem⟩
    rintro rfl
    exact hsame hrest
  · cases t with
    | nil => exact (hsame hrest.symm).elim
    | cons x t =>
        -- with a shorter stem, the extension would have a point
        have hpoint : '.' ∈ ext' := by
          rw [(List.cons.inj hrest).2]
          simp
        exact absurd (hext' _ hpoint) (by decide)

/-! ## The pattern -/

/-- What stands behind the stem of a path. -/
def pathEnd : Pattern := .all [.one (· == '.'), .any (extensions.map Pattern.word), .wordEdge]

theorem pathPattern_eq : pathPattern = .seq (.some1 (.one isPathPart)) pathEnd := rfl

theorem matches_pathEnd_iff :
    Matches pathEnd c d ↔ ∃ ext ∈ extensions, Passes ('.' :: ext.toList) c d ∧ NoWord d.rest := by
  -- behind an extension there is the edge of a word exactly if no word goes on
  have hedge {ext : String} {d : Cursor} (hext : ext ∈ extensions) (h : Passes ('.' :: ext.toList) c d) :
      d.atWordEdge = true ↔ NoWord d.rest := by
    obtain ⟨x, hx, hword⟩ := getLast?_extension hext
    refine atWordEdge_iff_noWord ?_ hword
    simp [h.before_eq, List.head?_append, hx]
  simp only [pathEnd, matches_all_cons_iff, matches_all_nil_iff, matches_one_iff, matches_any_iff,
    matches_wordEdge_iff, List.mem_map, Pattern.word]
  constructor
  · rintro ⟨_, ⟨x, hx, hpoint⟩, _, ⟨_, ⟨ext, hext, rfl⟩, hchars⟩, _, ⟨rfl, hatEdge⟩, rfl⟩
    obtain rfl : x = '.' := eq_of_beq hx
    have hpass := hpoint.trans (matches_chars_iff.mp hchars)
    exact ⟨ext, hext, hpass, (hedge hext hpass).mp hatEdge⟩
  · rintro ⟨ext, hext, hpass, hends⟩
    obtain ⟨e, hpoint, hchars⟩ := Passes.split (u := ['.']) hpass
    exact ⟨e, ⟨'.', by decide, hpoint⟩, d, ⟨_, ⟨ext, hext, rfl⟩, matches_chars_iff.mpr hchars⟩, d,
      ⟨rfl, (hedge hext hpass).mpr hends⟩, rfl⟩

/-- **The pattern matches what looks like a path and ends with a word.** -/
theorem matches_pathPattern_iff :
    Matches pathPattern c d ↔ ∃ m, PathLike m ∧ Passes m c d ∧ NoWord d.rest := by
  rw [pathPattern_eq, matches_seq_iff]
  constructor
  · rintro ⟨e, hstem, hend⟩
    obtain ⟨stem, hne, hparts, hpass⟩ := matches_some1_one_iff.mp hstem
    obtain ⟨ext, hext, hpass', hends⟩ := matches_pathEnd_iff.mp hend
    exact ⟨stem ++ '.' :: ext.toList, ⟨stem, ext, hext, hne, hparts, rfl⟩, hpass.trans hpass', hends⟩
  · rintro ⟨_, ⟨stem, ext, hext, hne, hparts, rfl⟩, hpass, hends⟩
    obtain ⟨e, hstem, hend⟩ := hpass.split
    exact ⟨e, matches_some1_one_iff.mpr ⟨stem, hne, hparts, hstem⟩,
      matches_pathEnd_iff.mpr ⟨ext, hext, hend, hends⟩⟩

theorem isSteady_pathPattern : pathPattern.isSteady = true := by decide

/-- **The match that is found is as long as it can be.** -/
theorem longest_of_matchAt (h : pathPattern.matchAt ⟨a.reverse, s, []⟩ = some d) :
    ∃ m, PathLike m ∧ Passes m ⟨a.reverse, s, []⟩ d ∧ NoWord d.rest ∧
      ∀ w z, d.rest = w ++ z → PathLike (m ++ w) → NoWord z → w = [] := by
  have hrun : run (.some1 (.one isPathPart)) ⟨a.reverse, s, []⟩ (fun e => run pathEnd e some) = some d := h
  unfold some1 run at hrun
  obtain ⟨e, hone, hrounds⟩ := matches_of_run hrun
  obtain ⟨x, hx, hone⟩ := matches_one_iff.mp hone
  unfold run at hrounds
  obtain ⟨u, e', hu, hparts, hfound, hmax⟩ := longest_of_rounds hrounds (Nat.le_refl _)
  obtain ⟨_, hend, hsame⟩ := matches_of_run hfound
  obtain rfl := Option.some.inj hsame
  obtain ⟨ext, hext, hpass, hends⟩ := matches_pathEnd_iff.mp hend
  have hstem : ∀ c ∈ x :: u, isPathPart c = true := List.forall_mem_cons.mpr ⟨hx, hparts⟩
  refine ⟨(x :: u) ++ '.' :: ext.toList, ⟨x :: u, ext, hext, List.cons_ne_nil _ _, hstem, rfl⟩,
    (hone.trans hu).trans hpass, hends, ?_⟩
  -- a longer match would have a longer stem, and the search would have gone on behind that
  intro w z hr hlike hz
  refine Classical.byContradiction fun hw => ?_
  have hwends : NoWord w := by
    obtain ⟨c, w, rfl⟩ := List.exists_cons_of_ne_nil hw
    exact fun x hx => hends x (by rw [hr]; exact hx)
  obtain ⟨stem', ext', hext', _, hstem', heq⟩ := hlike
  obtain ⟨t, ht, rfl⟩ := stem_longer hw hwends (isWord_of_mem_extension hext') heq
  have hrest : e'.rest = t ++ ('.' :: ext'.toList ++ z) := by
    rw [hpass.rest_eq, hr]
    have := congrArg (· ++ z) heq
    simpa using this
  have hmatch : Matches pathEnd ⟨t.reverse ++ e'.before, '.' :: ext'.toList ++ z, e'.groups⟩ _ :=
    matches_pathEnd_iff.mpr ⟨ext', hext', .of_rest rfl, hz⟩
  have hnone := hmax t _ (.of_rest hrest) ht fun c hc => hstem' c (List.mem_append_right _ hc)
  have hsome : (run pathEnd ⟨t.reverse ++ e'.before, '.' :: ext'.toList ++ z, e'.groups⟩ some).isSome = true :=
    isSome_run (by decide) hmatch rfl
  rw [hnone] at hsome
  cases hsome

/-! ## What is mentioned -/

/-- What a search for the pattern finds. -/
theorem exists_of_mem_findAll (h : f ∈ pathPattern.findAll s) : ∃ a m b, s = a ++ (m ++ b) ∧ PathLike m ∧
    NoWord b ∧ (∀ w z, b = w ++ z → PathLike (m ++ w) → NoWord z → w = []) ∧
      f = ⟨a.length, a.length + m.length, []⟩ := by
  obtain ⟨a, t, d, rfl, hm, rfl⟩ := matchAt_of_mem_findAll h
  obtain ⟨m, hlike, hpass, hends, hmax⟩ := longest_of_matchAt hm
  refine ⟨a, m, d.rest, by rw [← hpass.rest_eq], hlike, hends, hmax, ?_⟩
  rw [hpass.offset_eq, hpass.groups_eq, Cursor.offset, List.length_reverse]

/-- Where a stretch looks like a path, a match begins, or one goes on that began before. -/
theorem exists_mem_findAll_of_pathLike (hm : PathLike m) (hb : NoWord b) :
    ∃ f ∈ pathPattern.findAll (a ++ (m ++ b)), f.start ≤ a.length ∧
      (a.length < f.stop ∨ f.start = a.length) := by
  have hmatch : Matches pathPattern ⟨a.reverse, m ++ b, []⟩ ⟨m.reverse ++ a.reverse, b, []⟩ :=
    matches_pathPattern_iff.mpr ⟨m, hm, .of_rest rfl, hb⟩
  exact exists_mem_findAll_at isSteady_pathPattern hmatch

/-- A match begins with the characters of a path that stand there. -/
theorem begins_of_mem_findAll (hf : f ∈ pathPattern.findAll (a ++ (m ++ b))) (hm : PathLike m) (hb : NoWord b)
    (hstart : f.start = a.length) (hstop : f.stop = a.length + m.length) :
    ∀ c ∈ a.getLast?, isPathPart c = false := by
  intro c hc
  obtain ⟨a, rfl⟩ := List.getLast?_eq_some_iff.mp hc
  refine Bool.eq_false_iff.mpr fun hpart => ?_
  have htext : a ++ [c] ++ (m ++ b) = a ++ (c :: m ++ b) := by simp
  -- the pattern can match one character before, so another match goes up to here
  have hlike : PathLike (c :: m) := hm.append_left (a := [c]) (by simpa using hpart)
  obtain ⟨g, hg, hle, hreach⟩ := exists_mem_findAll_of_pathLike (a := a) hlike hb
  rw [← htext] at hg
  rw [List.length_append, List.length_singleton] at hstart hstop
  have hdisjoint := disjoint_of_mem_findAll hf hg (by rintro rfl; omega)
  obtain ⟨a', m', b', hs', hlike', _, hmax', hg'⟩ := exists_of_mem_findAll hg
  have hne := List.length_pos_iff.mpr hlike'.ne_nil
  rw [hg'] at hle hreach hdisjoint
  dsimp only at hle hreach hdisjoint
  have hstop' : a'.length + m'.length = a.length + 1 := by omega
  -- but it could have gone on
  have hboth : a ++ [c] ++ (m ++ b) = a' ++ m' ++ b' := by rw [hs', List.append_assoc]
  obtain ⟨_, hrest⟩ := List.append_inj hboth (by simp [hstop'])
  have hnil := hmax' m b hrest.symm (hm.append_left hlike'.isPathPart_of_mem) hb
  exact hm.ne_nil hnil

/-- **A message mentions the stretches that look like a path, each as long as it can be.** -/
theorem mem_mentions_iff :
    mention ∈ mentions s ↔ ∃ a b, s = a ++ mention.toList ++ b ∧ MentionAt a mention.toList b := by
  unfold mentions
  rw [List.mem_map]
  constructor
  · rintro ⟨f, hf, rfl⟩
    obtain ⟨a, m, b, rfl, hlike, hends, hmax, rfl⟩ := exists_of_mem_findAll hf
    rw [← stretch, stretch_append, String.toList_ofList]
    exact ⟨a, b, by simp, begins_of_mem_findAll hf hlike hends rfl rfl, hlike, hends, hmax⟩
  · rintro ⟨a, b, rfl, hm⟩
    generalize hmt : mention.toList = m at hm
    obtain ⟨f, hf, hle, hreach⟩ := exists_mem_findAll_of_pathLike (a := a) hm.pathLike hm.ends
    obtain ⟨a', m', b', hs, hlike, hends, hmax, rfl⟩ := exists_of_mem_findAll hf
    dsimp only at hle hreach
    -- a match that began before would pass a character that is none of a path
    have hstart : a' = a := by
      rcases List.append_eq_append_iff.mp hs with ⟨t, ha', _⟩ | ⟨t, ha, hrest⟩
      · rw [ha', List.length_append] at hle
        have ht : t = [] := List.length_eq_zero_iff.mp (by omega)
        rw [ha', ht, List.append_nil]
      · rcases List.eq_nil_or_concat t with rfl | ⟨t, c, rfl⟩
        · rw [ha, List.append_nil]
        · have hlen : t.concat c <+: m' ++ b' := ⟨m ++ b, hrest.symm⟩
          have hshort : (t.concat c).length ≤ m'.length := by
            rw [ha, List.length_append] at hreach
            rw [List.concat_eq_append, List.length_append, List.length_singleton] at hreach ⊢
            omega
          have hmem : c ∈ m' := by
            refine (List.prefix_of_prefix_length_le hlen (List.prefix_append m' b') hshort).subset ?_
            simp
          have hc := hm.begins c (by rw [ha]; simp)
          rw [hlike.isPathPart_of_mem c hmem] at hc
          cases hc
    subst hstart
    -- both are as long as they can be
    have hsame : m' = m := by
      rcases List.append_eq_append_iff.mp (List.append_cancel_left hs) with ⟨w, hw, hb⟩ | ⟨w, hw, hb⟩
      · rw [hw, hm.longest w b' hb (hw ▸ hlike) hends, List.append_nil]
      · rw [hw, hmax w b hb (hw ▸ hm.pathLike) hm.ends, List.append_nil]
    subst hsame
    refine ⟨_, by simpa using hf, ?_⟩
    rw [List.append_assoc, ← stretch, stretch_append, ← hmt, String.ofList_toList]

end AppMend.Diagnosis
