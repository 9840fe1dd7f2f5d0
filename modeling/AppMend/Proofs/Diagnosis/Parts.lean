import AppMend.Heal.Request
import AppMend.Proofs.FileSet.Lookup
import AppMend.Proofs.Table
import Mathlib.Data.List.Sort

/-!
# How a diagnosis parts a set of files

A diagnosis names the files to make anew and those to keep. An error implicates only files of the set
(`mem_paths_of_implicated`), whatever its message says, and where no error implicates any the entry or
all scripts take their place. So the two lists part the paths of the set (`Diagnosis.parts_of_make?`).

A request looks the failed files up in the set again. When it is made with the set that was diagnosed,
it finds each of them as it is (`RegenerationRequest.splits_of_make?`).
-/

namespace AppMend

namespace Diagnosis

variable {files : FileSet} {errors : List DiagnosticError} {e : DiagnosticError} {entry : Option String}
  {attempt : Nat} {d : Diagnosis} {path mention : String}

/-! ## The files that fail -/

theorem path_mem_paths {f : File} (h : files.get? path = some f) : f.path ∈ files.paths :=
  FileSet.mem_paths_iff.mpr ⟨f, (FileSet.get?_eq_some_iff.mp h).1, rfl⟩

theorem mem_paths_of_mentioned (h : mentioned? files mention = some path) : path ∈ files.paths := by
  unfold mentioned? at h
  dsimp only at h
  split at h
  · rename_i f hf
    rw [← Option.some.inj h]
    exact path_mem_paths hf
  · split at h
    · rename_i only honly
      have hmem : only ∈ [only] := List.mem_singleton_self only
      rw [← honly] at hmem
      rw [← Option.some.inj h]
      exact (List.mem_filter.mp hmem).1
    · cases h

/-- **An error implicates only files of the set.** -/
theorem mem_paths_of_implicated (h : path ∈ implicated files e) : path ∈ files.paths := by
  rcases List.mem_append.mp h with h | h
  · obtain ⟨f, hf, rfl⟩ := Option.map_eq_some_iff.mp (Option.mem_toList.mp h)
    obtain ⟨named, _, hget⟩ := Option.bind_eq_some_iff.mp hf
    exact path_mem_paths hget
  · obtain ⟨mention, _, hm⟩ := List.mem_filterMap.mp h
    exact mem_paths_of_mentioned hm

/-- What fails is what the errors implicate, or else the entry, or else all scripts. -/
theorem failedFilesOf_cases (errors : List DiagnosticError) (files : FileSet) (entry : Option String) :
    failedFilesOf errors files entry = sortedTexts (errors.flatMap (implicated files)) ∧
        failedFilesOf errors files entry ≠ [] ∨
      (∃ f, entry.bind files.get? = some f ∧ failedFilesOf errors files entry = [f.path]) ∨
      failedFilesOf errors files entry = files.codeFiles.map (·.path) := by
  unfold failedFilesOf
  cases himplicated : sortedTexts (errors.flatMap (implicated files)) with
  | cons failed rest => exact .inl ⟨rfl, by simp⟩
  | nil =>
      cases hentry : entry.bind files.get? with
      | some f => exact .inr (.inl ⟨f, rfl, rfl⟩)
      | none => exact .inr (.inr rfl)

theorem mem_paths_of_failed (h : path ∈ failedFilesOf errors files entry) : path ∈ files.paths := by
  rcases failedFilesOf_cases errors files entry with ⟨hf, _⟩ | ⟨f, hentry, hf⟩ | hf
  · rw [hf, mem_sortedTexts] at h
    obtain ⟨e, _, he⟩ := List.mem_flatMap.mp h
    exact mem_paths_of_implicated he
  · rw [hf] at h
    obtain ⟨named, _, hget⟩ := Option.bind_eq_some_iff.mp hentry
    rw [List.mem_singleton.mp h]
    exact path_mem_paths hget
  · rw [hf] at h
    obtain ⟨f, hcode, rfl⟩ := List.mem_map.mp h
    exact FileSet.mem_paths_iff.mpr ⟨f, (List.mem_filter.mp hcode).1, rfl⟩

theorem ascending_paths (files : FileSet) : files.paths.Pairwise (· < ·) :=
  List.pairwise_map.mpr files.ascending

theorem ascending_failedFilesOf : (failedFilesOf errors files entry).Pairwise (· < ·) := by
  rcases failedFilesOf_cases errors files entry with ⟨hf, _⟩ | ⟨f, _, hf⟩ | hf
  · rw [hf]
    exact ascending_sortedTexts _
  · rw [hf]
    exact List.pairwise_singleton _ _
  · rw [hf]
    exact List.pairwise_map.mpr (files.ascending.filter _)

theorem failedFilesOf_ne_nil (h : files.codeFiles ≠ []) : failedFilesOf errors files entry ≠ [] := by
  rcases failedFilesOf_cases errors files entry with ⟨_, hne⟩ | ⟨f, _, hf⟩ | hf
  · exact hne
  · rw [hf]
    simp
  · rw [hf]
    simpa using h

/-! ## Failed and retained files -/

/-- Two lists that part the paths of a set. -/
structure Parts (files : FileSet) (failed retained : List String) : Prop where
  failed_ascending : failed.Pairwise (· < ·)
  retained_ascending : retained.Pairwise (· < ·)
  /-- No path is in both, or twice in one. -/
  distinct : (failed ++ retained).Nodup
  /-- Together they are the paths of the set. -/
  perm : (failed ++ retained).Perm files.paths
  failed_ne_nil : files.codeFiles ≠ [] → failed ≠ []

theorem nodup_of_ascending {xs : List String} (h : xs.Pairwise (· < ·)) : xs.Nodup :=
  h.imp fun hlt => String.ne_of_lt hlt

/-- **A diagnosis parts the paths of the set that it was made of.** -/
theorem parts_of_make? (h : make? errors files entry attempt = some d) :
    Parts files d.failedFiles d.retainedFiles := by
  obtain ⟨primary, _, rfl⟩ := Option.map_eq_some_iff.mp h
  let failed := failedFilesOf errors files entry
  have hasc : failed.Pairwise (· < ·) := ascending_failedFilesOf
  have hpaths := nodup_of_ascending (ascending_paths files)
  -- what fails are the paths that are not retained
  have hfailed : failed.Perm (files.paths.filter failed.contains) := by
    refine (List.perm_ext_iff_of_nodup (nodup_of_ascending hasc) (hpaths.filter _)).mpr fun path => ?_
    rw [List.mem_filter, List.contains_iff_mem]
    exact ⟨fun hp => ⟨mem_paths_of_failed hp, hp⟩, fun hp => hp.2⟩
  have hperm : (failed ++ files.paths.filter fun path => !failed.contains path).Perm files.paths :=
    (hfailed.append_right _).trans (List.filter_append_perm _ _)
  exact ⟨hasc, (ascending_paths files).filter _, hperm.nodup_iff.mpr hpaths, hperm,
    failedFilesOf_ne_nil⟩

end Diagnosis

namespace RegenerationRequest

variable {working : FileSet} {errors : List DiagnosticError} {entry : Option String} {d : Diagnosis}
  {attempt : Nat}

/-- A request that parts a set of files: it holds the failed ones as they are, and names the others. -/
structure Splits (working : FileSet) (r : RegenerationRequest) : Prop where
  parts : Diagnosis.Parts working (r.failedFiles.map (·.path)) r.retainedFiles
  current : ∀ f ∈ r.failedFiles, working.get? f.path = some f

/-- The files of some paths of a set are found under these paths. -/
theorem map_path_filterMap_get? {paths : List String} (h : ∀ path ∈ paths, path ∈ working.paths) :
    (paths.filterMap working.get?).map (·.path) = paths := by
  induction paths with
  | nil => rfl
  | cons path paths ih =>
      obtain ⟨f, _, hget, hp⟩ := FileSet.get?_of_mem_paths (h path List.mem_cons_self)
      have hrest := ih fun p hp => h p (List.mem_cons_of_mem _ hp)
      rw [List.filterMap_cons_some hget, List.map_cons, hp, hrest]

/-- **A request for the files that were diagnosed splits them.** -/
theorem splits_of_make? (h : Diagnosis.make? errors working entry attempt = some d) (prompt : String)
    (number : Nat) : Splits working (of prompt d working number) := by
  have hparts := Diagnosis.parts_of_make? h
  have hmem (path : String) (hp : path ∈ d.failedFiles) : path ∈ working.paths :=
    hparts.perm.subset (List.mem_append_left _ hp)
  refine ⟨?_, ?_⟩
  · show Diagnosis.Parts working ((d.failedFiles.filterMap working.get?).map (·.path)) d.retainedFiles
    rw [map_path_filterMap_get? hmem]
    exact hparts
  · intro f hf
    obtain ⟨path, hp, hget⟩ := List.mem_filterMap.mp hf
    obtain ⟨g, _, hg, hgp⟩ := FileSet.get?_of_mem_paths (hmem path hp)
    rw [hget] at hg
    rw [Option.some.inj hg, hgp, ← hg]
    exact hget

end RegenerationRequest

end AppMend
