import Mathlib.Data.List.Nodup
import AppMend.Finding
import AppMend.Proofs.FileSet.Construction

/-!
# Reviews one after another

A file that is repaired again takes the place of its earlier repair, by the path as it is spelled
(`Review.supersede`). To leave out the files of one path before or after that comes to the same
(`filter_foldl_supersede`), so it does not matter which of three reviews are merged first
(`foldl_supersede_foldl_supersede`).

A set files under canonical paths, so it takes two spellings for one path where a review keeps both. No
repair is lost for that: a file that is dropped is superseded in the set as well, by the one that
displaced it (`overlay_supersede`).
-/

namespace AppMend.Review

variable {g : File} {fs gs : List File} {path : String}

/-! ## Files that supersede others -/

/-- A file of another path is filed behind the others as before. -/
theorem filter_supersede_of_ne (h : g.path ≠ path) (fs : List File) :
    (supersede fs g).filter (·.path != path) = supersede (fs.filter (·.path != path)) g := by
  have hg : [g].filter (·.path != path) = [g] := List.filter_cons_of_pos (by simpa using h)
  rw [supersede, supersede, List.filter_append, hg, List.filter_filter, List.filter_filter]
  simp only [Bool.and_comm]

/-- Where the files of a path are left out, one of that path changes nothing. -/
theorem filter_supersede_of_eq (h : g.path = path) (fs : List File) :
    (supersede fs g).filter (·.path != path) = fs.filter (·.path != path) := by
  have hg : [g].filter (·.path != path) = [] := List.filter_cons_of_neg (by simpa using h)
  rw [supersede, List.filter_append, hg, List.append_nil, List.filter_filter, h]
  simp only [Bool.and_self]

/-- **The files of a path may be left out before or after.** -/
theorem filter_foldl_supersede (path : String) (fs gs : List File) :
    (gs.foldl supersede fs).filter (·.path != path) =
      (gs.filter (·.path != path)).foldl supersede (fs.filter (·.path != path)) := by
  induction gs generalizing fs with
  | nil => rfl
  | cons g gs ih =>
      rw [List.foldl_cons, ih]
      by_cases hg : g.path = path
      · rw [filter_supersede_of_eq hg, List.filter_cons_of_neg (by simpa using hg)]
      · rw [filter_supersede_of_ne hg, List.filter_cons_of_pos (by simpa using hg), List.foldl_cons]

/-- A file may come last among some before these come behind others, or last of all. -/
theorem foldl_supersede_supersede (fs gs : List File) (f : File) :
    (supersede gs f).foldl supersede fs = supersede (gs.foldl supersede fs) f := by
  have hleft : (gs.filter (·.path != f.path)).filter (·.path != f.path) = gs.filter (·.path != f.path) := by
    rw [List.filter_filter]
    simp only [Bool.and_self]
  calc (supersede gs f).foldl supersede fs
      = supersede ((gs.filter (·.path != f.path)).foldl supersede fs) f := by
        rw [supersede, List.foldl_append, List.foldl_cons, List.foldl_nil]
    _ = supersede (gs.foldl supersede fs) f := by
        rw [supersede, supersede, filter_foldl_supersede, filter_foldl_supersede, hleft]

/-- **Which of three lists of files come together first does not matter.** -/
theorem foldl_supersede_foldl_supersede (fs gs hs : List File) :
    (hs.foldl supersede gs).foldl supersede fs = hs.foldl supersede (gs.foldl supersede fs) := by
  induction hs generalizing gs with
  | nil => rfl
  | cons h hs ih => rw [List.foldl_cons, ih, foldl_supersede_supersede, List.foldl_cons]

/-- Files that repeat no path repeat none when one supersedes them. -/
theorem nodup_supersede (h : (fs.map (·.path)).Nodup) (f : File) :
    ((supersede fs f).map (·.path)).Nodup := by
  rw [supersede, List.map_append, List.map_singleton, List.nodup_append]
  refine ⟨h.sublist (List.filter_sublist.map _), List.nodup_singleton _, ?_⟩
  intro p hp q hq
  obtain ⟨g, hg, rfl⟩ := List.mem_map.mp hp
  rw [List.mem_singleton.mp hq]
  simpa using (List.mem_filter.mp hg).2

theorem nodup_foldl_supersede (h : (fs.map (·.path)).Nodup) (gs : List File) :
    ((gs.foldl supersede fs).map (·.path)).Nodup := by
  induction gs generalizing fs with
  | nil => exact h
  | cons g gs ih => exact ih (nodup_supersede h g)

/-- Files of paths that are not there yet come behind the others. -/
theorem foldl_supersede_of_nodup (h : ((fs ++ gs).map (·.path)).Nodup) :
    gs.foldl supersede fs = fs ++ gs := by
  induction gs generalizing fs with
  | nil => exact (List.append_nil fs).symm
  | cons g gs ih =>
      have hfresh : ∀ f ∈ fs, f.path ≠ g.path := by
        rw [List.map_append, List.map_cons] at h
        intro f hf
        exact (List.nodup_append.mp h).2.2 _ (List.mem_map_of_mem hf) _ List.mem_cons_self
      have hkept : supersede fs g = fs ++ [g] := by
        rw [supersede, List.filter_eq_self.mpr fun f hf => by simpa using hfresh f hf]
      rw [List.foldl_cons, hkept, ih (by simpa using h), List.append_assoc, List.singleton_append]

/-! ## Laid over a set -/

/-- **A set takes a file that supersedes others as one more file**, also where it spells its path in
another way than they do. -/
theorem overlay_supersede (s : FileSet) (fs : List File) (f : File) :
    s.overlay (supersede fs f) = (s.overlay fs).insert f := by
  refine FileSet.eq_of_get? fun path => ?_
  rw [FileSet.get?_overlay, FileSet.get?_insert, FileSet.get?_overlay, supersede,
    FileSet.latest?_append, FileSet.latest?_singleton]
  by_cases h : Path.normalize path = Path.normalize f.path
  · rw [if_pos h, if_pos h]
    rfl
  · rw [if_neg h, if_neg h, Option.none_or, FileSet.latest?_filter (Ne.symm h)]

/-- **Repairs that supersede others are laid over a set like all of them one after the other.** -/
theorem overlay_foldl_supersede (s : FileSet) (fs gs : List File) :
    s.overlay (gs.foldl supersede fs) = (s.overlay fs).overlay gs := by
  induction gs generalizing fs with
  | nil => rfl
  | cons g gs ih =>
      rw [List.foldl_cons, ih, overlay_supersede]
      rfl

/-! ## Merging -/

/-- A review whose verdict is read off its findings. -/
def Derived (r : Review) : Prop := ∃ findings fixedFiles, r = ofFindings findings fixedFiles

/-- The review that found nothing. -/
def clean : Review := ofFindings [] []

theorem Derived.eq {r : Review} (h : r.Derived) : r = ofFindings r.findings r.fixedFiles := by
  obtain ⟨findings, fixedFiles, rfl⟩ := h
  rfl

/-- A derived review is valid if nothing in it counts as a failure. -/
theorem Derived.isValid_iff {r : Review} (h : r.Derived) : r.isValid = true ↔ r.failureCount = 0 := by
  rw [h.eq, isValid_ofFindings, failureCount, failures, List.length_eq_zero_iff,
    List.filter_eq_nil_iff]
  simp only [Bool.not_eq_true]
  rfl

theorem derived_merge (a b : Review) : (a.merge b).Derived := ⟨_, _, rfl⟩

/-- Merging with the clean review settles the verdict and changes nothing else. -/
theorem merge_clean (a : Review) : a.merge clean = ofFindings a.findings a.fixedFiles := by
  simp only [merge, clean, ofFindings, List.append_nil, List.foldl_nil]

theorem clean_merge (b : Review) :
    clean.merge b = ofFindings b.findings (b.fixedFiles.foldl supersede []) := rfl

theorem foldl_supersede_nil_iff : gs.foldl supersede [] = gs ↔ (gs.map (·.path)).Nodup := by
  constructor
  · intro h
    have hnil : (([] : List File).map (·.path)).Nodup := List.nodup_nil
    exact h ▸ nodup_foldl_supersede hnil gs
  · intro h
    exact foldl_supersede_of_nodup h

/-- What merging reviews comes to, and what laying the repairs over a set comes to. -/
structure MergeLaws (a b c : Review) (s : FileSet) : Prop where
  assoc : (a.merge b).merge c = a.merge (b.merge c)
  findings : (a.merge b).findings = a.findings ++ b.findings
  failureCount : (a.merge b).failureCount = a.failureCount + b.failureCount
  isValid : a.Derived → b.Derived → ((a.merge b).isValid = true ↔ a.isValid = true ∧ b.isValid = true)
  overlay : s.overlay (a.merge b).fixedFiles = (s.overlay a.fixedFiles).overlay b.fixedFiles
  /-- The clean review is neutral on the right for every verdict that is read off its findings. -/
  merge_clean : a.merge clean = a ↔ a.Derived
  /-- It is neutral on the left too, unless a path is repaired twice. -/
  clean_merge : clean.merge a = a ↔ a.Derived ∧ (a.fixedFiles.map (·.path)).Nodup

/-- **Merging reviews is associative and goes with overlays**, whatever paths they repair and however
these are spelled. -/
theorem merge_lawful (a b c : Review) (s : FileSet) : MergeLaws a b c s where
  assoc := by
    have hfixed : (a.merge (b.merge c)).fixedFiles = ((a.merge b).merge c).fixedFiles :=
      foldl_supersede_foldl_supersede a.fixedFiles b.fixedFiles c.fixedFiles
    have hfindings : (a.merge (b.merge c)).findings = ((a.merge b).merge c).findings :=
      (List.append_assoc a.findings b.findings c.findings).symm
    rw [(derived_merge a (b.merge c)).eq, hfindings, hfixed, ← (derived_merge (a.merge b) c).eq]
  findings := rfl
  failureCount := failureCount_merge a b
  isValid ha hb := by
    rw [(derived_merge a b).isValid_iff, ha.isValid_iff, hb.isValid_iff, failureCount_merge,
      Nat.add_eq_zero_iff]
  overlay := overlay_foldl_supersede s a.fixedFiles b.fixedFiles
  merge_clean := by
    rw [Review.merge_clean]
    exact ⟨fun h => ⟨_, _, h.symm⟩, fun h => h.eq.symm⟩
  clean_merge := by
    rw [Review.clean_merge, ← foldl_supersede_nil_iff]
    constructor
    · intro h
      exact ⟨⟨_, _, h.symm⟩, congrArg Review.fixedFiles h⟩
    · rintro ⟨hderived, hfixed⟩
      rw [hfixed, ← hderived.eq]

/-- Two spellings of a path are kept apart until they are laid over a set. -/
example :
    let first := ofFindings [] [⟨"a.ts", "1", .typescript⟩, ⟨"./a.ts", "2", .typescript⟩]
    let second := ofFindings [] [⟨"a.ts", "3", .typescript⟩]
    (first.merge second).fixedFiles = [⟨"./a.ts", "2", .typescript⟩, ⟨"a.ts", "3", .typescript⟩] := by
  decide

end AppMend.Review
