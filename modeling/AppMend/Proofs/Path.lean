import AppMend.Path

/-!
# One spelling of a place

A text is a canonical path if it is made of plain segments with a slash between each two. These are the
canonical forms and no others (`canonical_iff`), so a place has one canonical spelling.

Segments are read from left to right, and each is put on top of those that were kept of the ones before.
So the kept segments of a path are all that the rest of a longer path needs to know of it
(`segments_append`): a path can be brought to its canonical form before or after something is added to
it (`normalize_append`), and a path joined to a base is the path behind the base, whatever the base
(`join_eq`). A path cut at its last slash is joined from the two parts again (`join_parent_name`).
-/

namespace AppMend.Path

variable {p q : String} {s a b seg : List Char} {mark : Char}

/-! ## Texts one behind the other -/

/-- What is kept of a text behind another is kept on top of what the first one left. -/
theorem segments_append (s t : List Char) :
    segments (s ++ '/' :: t) = ((split t).foldl push (segments s).reverse).reverse := by
  rw [segments, split_append rfl, List.foldl_append, segments, List.reverse_reverse]

theorem toList_normalize (p : String) : (normalize p).toList = joined (segments p.toList) :=
  String.toList_ofList

theorem segments_normalize (p : String) : segments (normalize p).toList = segments p.toList := by
  rw [toList_normalize, segments_joined fun _ h => plain_of_mem_segments h]

theorem toList_append_slash (p q : String) : (p ++ "/" ++ q).toList = p.toList ++ '/' :: q.toList := by
  simp

/-- **A path may be brought to its canonical form before something is added to it.** -/
theorem normalize_append (p q : String) : normalize (normalize p ++ "/" ++ q) = normalize (p ++ "/" ++ q) := by
  have hseg : segments (normalize p ++ "/" ++ q).toList = segments (p ++ "/" ++ q).toList := by
    rw [toList_append_slash, toList_append_slash, segments_append, segments_append, segments_normalize]
  rw [normalize, hseg, normalize]

/-- A slash in front of a path adds nothing but an empty segment. -/
theorem segments_slash (s : List Char) : segments ('/' :: s) = segments s := by
  show segments ([] ++ '/' :: s) = segments s
  rw [segments_append]
  rfl

/-- **To join a path to a base is to put it behind the base.** -/
theorem join_eq (p q : String) : join p q = normalize (p ++ "/" ++ q) := by
  unfold join
  split
  · rename_i h
    rw [String.isEmpty_iff.mp h, normalize, normalize, toList_append_slash]
    exact congrArg (fun segs => String.ofList (joined segs)) (segments_slash q.toList).symm
  · rfl

/-! ## Canonical paths -/

/-- A text of plain segments with a slash between each two. The empty text has no segment. -/
structure Canonical (p : String) : Prop where
  no_backslash : '\\' ∉ p.toList
  no_slash_first : p.toList.head? ≠ some '/'
  no_slash_last : p.toList.getLast? ≠ some '/'
  /-- No segment is empty, and none stands for the same directory or for the parent. -/
  segments_plain : p ≠ "" → ∀ seg ∈ split p.toList, seg ≠ [] ∧ seg ≠ ['.'] ∧ seg ≠ ['.', '.']

theorem mem_joined {c : Char} {segs : List (List Char)} (h : c ∈ joined segs) :
    c = '/' ∨ ∃ seg ∈ segs, c ∈ seg := by
  induction segs with
  | nil => cases h
  | cons a segs ih =>
      cases segs with
      | nil => exact .inr ⟨a, List.mem_cons_self, by simpa using h⟩
      | cons b segs =>
          rw [joined_cons_cons, List.mem_append, List.mem_cons] at h
          rcases h with h | h | h
          · exact .inr ⟨a, List.mem_cons_self, h⟩
          · exact .inl h
          · exact (ih h).imp_right fun ⟨seg, hseg, hc⟩ => ⟨seg, List.mem_cons_of_mem _ hseg, hc⟩

/-- A text without backslashes is its segments with a slash between each two. -/
theorem joined_split (h : '\\' ∉ s) : joined (split s) = s := by
  induction s with
  | nil => rfl
  | cons c s ih =>
      have hc : '\\' ≠ c := List.ne_of_not_mem_cons h
      have hrest := ih (List.not_mem_of_not_mem_cons h)
      rw [split_cons]
      cases hsplit : split s with
      | nil => exact absurd hsplit (split_ne_nil s)
      | cons seg segs =>
          rw [hsplit] at hrest
          split
          · rename_i hsep
            have : c = '/' := by simpa [isSeparator, Ne.symm hc] using hsep
            rw [joined_cons_cons, hrest, this, List.nil_append]
          · rw [← hrest]
            cases segs with
            | nil => simp
            | cons seg' segs => rw [joined_cons_cons, joined_cons_cons, List.cons_append]

/-- Segments that are not empty leave no slash at either end. -/
theorem no_slash_of_split (h : ∀ seg ∈ split s, seg ≠ []) :
    s.head? ≠ some '/' ∧ s.getLast? ≠ some '/' := by
  constructor
  · intro hs
    obtain ⟨t, rfl⟩ := List.head?_eq_some_iff.mp hs
    exact h [] (by rw [← List.nil_append ('/' :: t), split_append rfl]; simp [split_nil]) rfl
  · intro hs
    obtain ⟨t, rfl⟩ := List.getLast?_eq_some_iff.mp hs
    exact h [] (by rw [split_append rfl]; simp [split_nil]) rfl

/-- A canonical form is canonical. -/
theorem canonical_normalize (p : String) : Canonical (normalize p) := by
  have hplain : ∀ seg ∈ segments p.toList, Plain seg := fun _ h => plain_of_mem_segments h
  have hsplit (hne : normalize p ≠ "") : split (normalize p).toList = segments p.toList := by
    rw [toList_normalize]
    refine split_joined (fun hnil => hne ?_) fun seg h => (hplain seg h).2.2.2
    rw [normalize, hnil]
    rfl
  have hends : (normalize p).toList.head? ≠ some '/' ∧ (normalize p).toList.getLast? ≠ some '/' := by
    by_cases hne : normalize p = ""
    · simp [hne]
    · exact no_slash_of_split fun seg h => (hplain seg (hsplit hne ▸ h)).1
  constructor
  · rw [toList_normalize]
    intro h
    rcases mem_joined h with h | ⟨seg, hseg, h⟩
    · cases h
    · cases (hplain seg hseg).2.2.2 _ h
  · exact hends.1
  · exact hends.2
  · intro hne seg h
    obtain ⟨hempty, hsame, hparent, _⟩ := hplain seg (hsplit hne ▸ h)
    exact ⟨hempty, hsame, hparent⟩

/-- A canonical path is its own canonical form. -/
theorem Canonical.normalize_eq (h : Canonical p) : normalize p = p := by
  by_cases hne : p = ""
  · rw [hne]
    rfl
  · have hplain : ∀ seg ∈ split p.toList, Plain seg := by
      intro seg hseg
      obtain ⟨hempty, hsame, hparent⟩ := h.segments_plain hne seg hseg
      exact ⟨hempty, hsame, hparent, not_isSeparator_of_mem_split hseg⟩
    have hseg : segments p.toList = split p.toList := by
      rw [segments, foldl_push_of_plain hplain, List.append_nil, List.reverse_reverse]
    rw [normalize, hseg, joined_split h.no_backslash, String.ofList_toList]

/-- **The canonical paths are the canonical forms.** -/
theorem canonical_iff : Canonical p ↔ normalize p = p :=
  ⟨Canonical.normalize_eq, fun h => h ▸ canonical_normalize p⟩

/-! ## Paths that name no place below the root -/

/-- The level that a segment leads to from another. From the root a segment for the parent leads nowhere. -/
def descend (level : Nat) (seg : List Char) : Nat :=
  if seg = [] ∨ seg = ['.'] then level
  else if seg = ['.', '.'] then level - 1
  else level + 1

/-- How many levels below the root a path leads. -/
def level (p : String) : Nat := (split p.toList).foldl descend 0

theorem length_push (kept : List (List Char)) (seg : List Char) :
    (push kept seg).length = descend kept.length seg := by
  unfold push descend
  split
  · rfl
  · split
    · exact List.length_tail
    · rfl

theorem length_segments (p : String) : (segments p.toList).length = level p := by
  have hfold (segs kept : List (List Char)) :
      (segs.foldl push kept).length = segs.foldl descend kept.length := by
    induction segs generalizing kept with
    | nil => rfl
    | cons seg segs ih => rw [List.foldl_cons, ih, length_push, List.foldl_cons]
  rw [segments, List.length_reverse, hfold]
  rfl

theorem joined_eq_nil_iff {segs : List (List Char)} (h : ∀ seg ∈ segs, seg ≠ []) :
    joined segs = [] ↔ segs = [] := by
  cases segs with
  | nil => simp
  | cons a segs =>
      have ha : a ≠ [] := h a List.mem_cons_self
      cases segs with
      | nil => simp [ha]
      | cons b segs => simp [joined_cons_cons]

/-- **The canonical form is empty exactly of a path that leads to the root again.** -/
theorem normalize_eq_empty_iff : normalize p = "" ↔ level p = 0 := by
  have hempty : normalize p = "" ↔ joined (segments p.toList) = [] := by
    rw [← toList_normalize, String.toList_eq_nil_iff]
  rw [hempty, joined_eq_nil_iff fun seg h => (plain_of_mem_segments h).1, ← length_segments,
    List.length_eq_zero_iff]

/-! ## The last slash -/

theorem cutLast?_eq_some (h : cutLast? mark s = some (a, b)) : s = a ++ mark :: b ∧ mark ∉ b := by
  unfold cutLast? at h
  split at h
  · rename_i hmem
    cases h
    -- read backwards, the last mark is the first one
    obtain ⟨after, before, hs, hafter⟩ := List.eq_append_cons_of_mem (List.mem_reverse.mpr hmem)
    have hother : ∀ c ∈ after, (c != mark) = true := fun c hc =>
      bne_iff_ne.mpr fun he => hafter (he ▸ hc)
    rw [hs, List.takeWhile_append_of_pos hother, List.dropWhile_append_of_pos hother,
      List.takeWhile_cons_of_neg (by simp), List.dropWhile_cons_of_neg (by simp), List.append_nil]
    refine ⟨?_, fun hm => hafter (List.mem_reverse.mp hm)⟩
    have := congrArg List.reverse hs
    simpa using this
  · cases h

theorem cutLast?_eq_none (h : cutLast? mark s = none) : mark ∉ s := by
  unfold cutLast? at h
  split at h
  · cases h
  · assumption

/-- The name of a path has no slash. -/
theorem no_slash_name (p : String) : '/' ∉ (name p).toList := by
  unfold name
  split
  · rename_i h
    rw [String.toList_ofList]
    exact (cutLast?_eq_some h).2
  · rename_i h
    exact cutLast?_eq_none h

/-- **A path is its name joined to its parent**, up to its spelling. -/
theorem join_parent_name (p : String) : join (parent p) (name p) = normalize p := by
  rw [join_eq, parent, name]
  cases h : cutLast? '/' p.toList with
  | some cut =>
      obtain ⟨dir, file⟩ := cut
      dsimp only
      rw [normalize, toList_append_slash, String.toList_ofList, String.toList_ofList,
        ← (cutLast?_eq_some h).1, normalize]
  | none =>
      dsimp only
      rw [normalize, toList_append_slash]
      exact congrArg (fun segs => String.ofList (joined segs)) (segments_slash p.toList)

/-! ## The laws of paths -/

/-- **The algebra of paths.** To bring a path to its canonical form a second time changes nothing; the
canonical forms are the canonical paths; a base may be brought to its canonical form first; to join is
to add behind a base, also behind an empty one; and a canonical path is its name joined to its parent. -/
theorem algebra (p q : String) :
    normalize (normalize p) = normalize p ∧
      Canonical (normalize p) ∧ (Canonical p ↔ normalize p = p) ∧
      normalize (normalize p ++ "/" ++ q) = normalize (p ++ "/" ++ q) ∧
      join p q = normalize (p ++ "/" ++ q) ∧
      '/' ∉ (name p).toList ∧ (Canonical p → join (parent p) (name p) = p) :=
  ⟨normalize_normalize p, canonical_normalize p, canonical_iff, normalize_append p q, join_eq p q,
    no_slash_name p, fun h => (join_parent_name p).trans h.normalize_eq⟩

/-- A path three segments deep is cut and joined again, and a parent folded into it. -/
theorem algebra_nested :
    Canonical "src/ui/Card.tsx" ∧ join (parent "src/ui/Card.tsx") (name "src/ui/Card.tsx") = "src/ui/Card.tsx" ∧
      join "src/ui/Card.tsx" "..\\..//lib/./a.ts" = "src/lib/a.ts" := by
  have h : Canonical "src/ui/Card.tsx" := by
    constructor <;> decide +kernel
  obtain ⟨_, _, _, _, _, _, hparts⟩ := algebra "src/ui/Card.tsx" ""
  exact ⟨h, hparts h, by decide +kernel⟩

end AppMend.Path
