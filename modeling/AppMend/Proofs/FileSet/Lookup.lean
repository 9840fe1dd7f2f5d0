import AppMend.FileSet

/-!
# Files by their paths

A set keeps each of its files under a canonical path, and a look-up takes any way to write that path
(`get?_eq_some_iff`). So what is found is filed under the canonical form of what was asked for, and a
path of the set is found as it stands.

Files that come one after another are versions of the files that their paths name, and the last one of a
path counts (`latest?`). What an overlay holds under a path is the latest of the files laid over, or
else what was there (`get?_overlay`), so laying files over a set in several goes is the same as asking
for the latest of all of them (`latest?_append`). Paths are compared in their canonical form throughout,
for a look-up takes any way to write them.

An overlay with files whose paths are in the set changes no path: each file is replaced where it stands
(`files_overlay`). The order of the paths tells where that is, because no two files of a set have the
same path.
-/

namespace AppMend.FileSet

/-! ## New versions of files that are there -/

variable {s : FileSet} {f g : File} {fs gs : List File} {path : String}

/-- No two files of a set have the same path. -/
theorem eq_of_path_eq (hf : f ∈ s.files) (hg : g ∈ s.files) (hp : f.path = g.path) : f = g := by
  obtain ⟨i, hi, rfl⟩ := List.getElem_of_mem hf
  obtain ⟨j, hj, rfl⟩ := List.getElem_of_mem hg
  have hpair := List.pairwise_iff_getElem.mp s.ascending
  rcases Nat.lt_trichotomy i j with hij | rfl | hij
  · exact absurd hp (String.ne_of_lt (hpair i j hi hj hij))
  · rfl
  · exact absurd hp.symm (String.ne_of_lt (hpair j i hj hi hij))

/-- A file takes the place of the one of its path. -/
theorem insertFile_of_mem (h : gs.Pairwise fun a b => a.path < b.path) (hg : g ∈ gs)
    (hp : f.path = g.path) : insertFile f gs = gs.map fun a => if a.path = f.path then f else a := by
  induction gs with
  | nil => cases hg
  | cons a gs ih =>
      obtain ⟨ha, hgs⟩ := List.pairwise_cons.mp h
      unfold insertFile
      rw [List.map_cons]
      rcases List.mem_cons.mp hg with rfl | hg
      · -- the files behind it have other paths
        have hrest : gs.map (fun b => if b.path = f.path then f else b) = gs := by
          refine (List.map_congr_left fun b hb => ?_).trans (List.map_id' gs)
          exact if_neg (hp ▸ (String.ne_of_lt (ha b hb)).symm)
        rw [if_neg (by rw [hp]; exact String.lt_irrefl _), if_pos hp, if_pos hp.symm, hrest]
      · have hlt : a.path < f.path := hp ▸ ha g hg
        rw [if_neg (fun hlt' => String.lt_asymm hlt hlt'), if_neg (Ne.symm (String.ne_of_lt hlt)),
          if_neg (String.ne_of_lt hlt), ih hgs hg]

/-- **New versions of files of a set take the places of the old ones.** -/
theorem files_overlay {fs : List File} (hfiled : ∀ f ∈ fs, f.Filed)
    (hmem : ∀ f ∈ fs, ∃ g ∈ s.files, f.path = g.path) (hd : (fs.map (·.path)).Nodup) :
    (s.overlay fs).files = s.files.map fun g => (fs.find? (·.path == g.path)).getD g := by
  induction fs generalizing s with
  | nil => exact (List.map_id' s.files).symm
  | cons f fs ih =>
      obtain ⟨hfresh, hd⟩ := List.nodup_cons.mp hd
      obtain ⟨g, hg, hp⟩ := hmem f List.mem_cons_self
      have hinsert : (s.insert f).files = s.files.map fun a => if a.path = f.path then f else a := by
        show insertFile f.filed s.files = _
        rw [(hfiled f List.mem_cons_self).filed_eq]
        exact insertFile_of_mem s.ascending hg hp
      have hmem' : ∀ e ∈ fs, ∃ g ∈ (s.insert f).files, e.path = g.path := by
        intro e he
        obtain ⟨g, hg, hp⟩ := hmem e (List.mem_cons_of_mem _ he)
        rw [hinsert]
        refine ⟨_, List.mem_map_of_mem hg, ?_⟩
        split
        · rename_i hgf
          exact hp.trans hgf
        · exact hp
      -- no later version is of the path of `f`, so `f` stays
      have hnext := ih (s := s.insert f) (fun e he => hfiled e (List.mem_cons_of_mem _ he)) hmem' hd
      have hnone : fs.find? (·.path == f.path) = none := by
        rw [List.find?_eq_none]
        intro e he heq
        exact hfresh (List.mem_map.mpr ⟨e, he, eq_of_beq heq⟩)
      show ((s.insert f).overlay fs).files = _
      rw [hnext, hinsert, List.map_map]
      refine List.map_congr_left fun a _ => ?_
      by_cases ha : a.path = f.path
      · simp [ha, hnone]
      · simp [ha, Ne.symm ha]

/-- A new version of a file is found under its path among the new versions of others. -/
theorem find?_filterMap {new? : File → Option File}
    (hnew : ∀ f g, new? f = some g → g.path = f.path) {fs : List File}
    (hd : ∀ e ∈ fs, e.path = f.path → e = f) (hf : f ∈ fs) :
    (fs.filterMap new?).find? (·.path == f.path) = new? f := by
  cases hfind : (fs.filterMap new?).find? (·.path == f.path) with
  | some g =>
      have hg := List.mem_of_find?_eq_some hfind
      have hp : g.path = f.path := by simpa using List.find?_some hfind
      obtain ⟨e, he, heg⟩ := List.mem_filterMap.mp hg
      rw [← hd e he ((hnew e g heg).symm.trans hp), heg]
  | none =>
      cases hn : new? f with
      | none => rfl
      | some g =>
          have hnot := List.find?_eq_none.mp hfind g (List.mem_filterMap.mpr ⟨f, hf, hn⟩)
          exact absurd (by simpa using hnew f g hn) hnot

/-- **An overlay with the new versions of some files of a set.** -/
theorem files_overlay_filterMap {new? : File → Option File} (q : File → Bool)
    (hnew : ∀ f g, new? f = some g → g.path = f.path ∧ (f.Filed → g.Filed)) :
    (s.overlay ((s.files.filter q).filterMap new?)).files =
      s.files.map fun f => if q f then (new? f).getD f else f := by
  have hpath (f g : File) (h : new? f = some g) : g.path = f.path := (hnew f g h).1
  have hd (f e : File) (hf : f ∈ s.files) (he : e ∈ s.files.filter q) (hp : e.path = f.path) : e = f :=
    eq_of_path_eq (List.mem_filter.mp he).1 hf hp
  rw [files_overlay]
  · refine List.map_congr_left fun f hf => ?_
    split
    · rename_i hq
      rw [find?_filterMap hpath (fun e he => hd f e hf he) (List.mem_filter.mpr ⟨hf, hq⟩)]
    · rename_i hq
      have hnone : ((s.files.filter q).filterMap new?).find? (·.path == f.path) = none := by
        rw [List.find?_eq_none]
        intro g hg hgp
        obtain ⟨e, he, heg⟩ := List.mem_filterMap.mp hg
        have hef := hd f e hf he ((hpath e g heg).symm.trans (eq_of_beq hgp))
        exact hq (hef ▸ (List.mem_filter.mp he).2)
      rw [hnone]
      rfl
  -- the new versions are filed, under paths of the set, no two of which are the same
  · intro g hg
    obtain ⟨e, he, heg⟩ := List.mem_filterMap.mp hg
    exact (hnew e g heg).2 (s.filed e (List.mem_filter.mp he).1)
  · intro g hg
    obtain ⟨e, he, heg⟩ := List.mem_filterMap.mp hg
    exact ⟨e, (List.mem_filter.mp he).1, hpath e g heg⟩
  · rw [List.map_filterMap, List.Nodup, List.pairwise_filterMap]
    refine (s.ascending.filter _).imp ?_
    intro e e' hlt p hp p' hp'
    obtain ⟨g, hg, rfl⟩ := Option.map_eq_some_iff.mp hp
    obtain ⟨g', hg', rfl⟩ := Option.map_eq_some_iff.mp hp'
    rw [hpath e g hg, hpath e' g' hg']
    exact String.ne_of_lt hlt

/-! ## Look-ups -/

theorem normalize_path (hf : f ∈ s.files) : Path.normalize f.path = f.path := (s.filed f hf).path_eq

theorem mem_paths_iff : path ∈ s.paths ↔ ∃ f ∈ s.files, f.path = path := List.mem_map

/-- **What a path names is the file of its canonical form.** -/
theorem get?_eq_some_iff : s.get? path = some f ↔ f ∈ s.files ∧ f.path = Path.normalize path := by
  unfold get? find?
  constructor
  · intro h
    exact ⟨List.mem_of_find?_eq_some h, by simpa using List.find?_some h⟩
  · rintro ⟨hf, hp⟩
    cases hfind : s.files.find? (·.path == Path.normalize path) with
    | none => exact absurd (by simpa using hp) (List.find?_eq_none.mp hfind f hf)
    | some g =>
        -- no other file has that path
        have hg : g.path = Path.normalize path := by simpa using List.find?_some hfind
        rw [eq_of_path_eq (List.mem_of_find?_eq_some hfind) hf (hg.trans hp.symm)]

theorem normalize_of_mem_paths (h : path ∈ s.paths) : Path.normalize path = path := by
  obtain ⟨f, hf, rfl⟩ := mem_paths_iff.mp h
  exact normalize_path hf

/-- A path of the set is found. -/
theorem get?_of_mem_paths (h : path ∈ s.paths) : ∃ f ∈ s.files, s.get? path = some f ∧ f.path = path := by
  obtain ⟨f, hf, rfl⟩ := mem_paths_iff.mp h
  exact ⟨f, hf, get?_eq_some_iff.mpr ⟨hf, (normalize_path hf).symm⟩, rfl⟩

/-- Whatever is found, its canonical path is one of the set. -/
theorem normalize_mem_paths (h : s.contains path = true) : Path.normalize path ∈ s.paths := by
  obtain ⟨f, hf⟩ := Option.isSome_iff_exists.mp h
  obtain ⟨hm, hp⟩ := get?_eq_some_iff.mp hf
  exact mem_paths_iff.mpr ⟨f, hm, hp⟩

theorem length_paths (s : FileSet) : s.paths.length = s.size := List.length_map _

/-! ## The latest version of a file -/

/-- The last of some files that a path names. -/
def latest? (fs : List File) (path : String) : Option File :=
  fs.reverse.find? fun f => Path.normalize f.path == Path.normalize path

theorem latest?_append (fs gs : List File) (path : String) :
    latest? (fs ++ gs) path = (latest? gs path).or (latest? fs path) := by
  rw [latest?, List.reverse_append, List.find?_append]
  rfl

theorem isSome_latest?_iff : (latest? fs path).isSome = true ↔
    ∃ f ∈ fs, Path.normalize f.path = Path.normalize path := by
  rw [latest?, List.find?_isSome]
  simp only [List.mem_reverse, beq_iff_eq]

theorem of_latest? (h : latest? fs path = some f) :
    f ∈ fs ∧ Path.normalize f.path = Path.normalize path := by
  have hp := List.find?_some h
  exact ⟨List.mem_reverse.mp (List.mem_of_find?_eq_some h), beq_iff_eq.mp hp⟩

theorem latest?_singleton (f : File) (path : String) :
    latest? [f] path = if Path.normalize path = Path.normalize f.path then some f else none := by
  unfold latest?
  rw [List.reverse_singleton]
  split
  · rename_i h
    rw [List.find?_cons_of_pos (by simp [h])]
  · rename_i h
    rw [List.find?_cons_of_neg (by simpa using Ne.symm h), List.find?_nil]

/-- What a path names does not depend on the files of another path. -/
theorem latest?_filter (h : Path.normalize g.path ≠ Path.normalize path) (fs : List File) :
    latest? (fs.filter (·.path != g.path)) path = latest? fs path := by
  rw [latest?, ← List.filter_reverse, List.find?_filter]
  refine congrArg (fun p => fs.reverse.find? p) (funext fun f => ?_)
  by_cases hf : f.path = g.path
  · simp [hf, h]
  · simp [hf, Bool.beq_eq_decide_eq]

/-- **An overlay holds the latest of its files, or else what was there.** -/
theorem get?_overlay (s : FileSet) (fs : List File) (path : String) :
    (s.overlay fs).get? path = ((latest? fs path).map File.filed).or (s.get? path) := by
  -- the first file is laid over the set, and the others over what that gives
  induction fs generalizing s with
  | nil => rfl
  | cons f fs ih =>
      have hsplit : latest? (f :: fs) path = (latest? fs path).or (latest? [f] path) :=
        latest?_append [f] fs path
      show ((s.insert f).overlay fs).get? path = _
      rw [ih, get?_insert, hsplit, latest?_singleton]
      cases latest? fs path with
      | some g => rfl
      | none => split <;> rfl

/-- **Each file of a set is the latest of its path**, for no other has that path. -/
theorem latest?_files (s : FileSet) (path : String) : latest? s.files path = s.get? path := by
  refine Option.ext fun f => ?_
  rw [get?_eq_some_iff]
  constructor
  · intro h
    obtain ⟨hf, hp⟩ := of_latest? h
    exact ⟨hf, normalize_path hf ▸ hp⟩
  · rintro ⟨hf, hp⟩
    have hsome : (latest? s.files path).isSome = true :=
      isSome_latest?_iff.mpr ⟨f, hf, hp ▸ normalize_path hf⟩
    obtain ⟨g, hg⟩ := Option.isSome_iff_exists.mp hsome
    obtain ⟨hgs, hgp⟩ := of_latest? hg
    rw [normalize_path hgs] at hgp
    rw [hg, eq_of_path_eq hgs hf (hgp.trans hp.symm)]

end AppMend.FileSet
