import AppMend.Proofs.Bundle.Closure
import AppMend.Proofs.Path

/-!
# Ways from file to file

Every file can import every other: by as many steps to the parent as its directory is deep and the path of
the other from there, or by that path behind a slash (`Resolution.reaches_every_file`). The steps lead to
the root whatever the directory (`Path.join_fromBelow`), and what a specifier names exactly is found before
anything that adds to it is tried, so no other file stands in the way.
-/

namespace AppMend

/-! ## Down from the root -/

namespace Path

variable {dir : String} {n : Nat}

/-- How many directories a path leads down: its segments, those that are empty left out. -/
def depth (dir : String) : Nat := ((split dir.toList).filter (!·.isEmpty)).length

/-- A path as it is written `n` directories below the place from which it leads down. -/
def fromBelow (n : Nat) (path : String) : String :=
  if n = 0 then "./" ++ path else String.join (List.replicate n "../") ++ path

theorem length_push_le (kept : List (List Char)) (seg : List Char) :
    (push kept seg).length ≤ kept.length + if seg.isEmpty then 0 else 1 := by
  unfold push
  split
  · exact Nat.le_add_right _ _
  · rename_i hseg
    have hne : ¬seg.isEmpty = true := fun he => hseg (.inl (List.isEmpty_iff.mp he))
    rw [if_neg hne]
    split
    · rw [List.length_tail]
      omega
    · exact Nat.le_refl _

theorem length_foldl_push_le (segs kept : List (List Char)) :
    (segs.foldl push kept).length ≤ kept.length + (segs.filter (!·.isEmpty)).length := by
  induction segs generalizing kept with
  | nil => exact Nat.le_refl _
  | cons seg segs ih =>
      have hpush := length_push_le kept seg
      have hrest := ih (push kept seg)
      rw [List.foldl_cons, List.filter_cons]
      split
      · rename_i hseg
        rw [if_neg (by simpa using hseg)] at hpush
        rw [List.length_cons]
        omega
      · rename_i hseg
        rw [if_pos (by simpa using hseg)] at hpush
        omega

/-- A canonical form is no deeper than what it was made of. -/
theorem length_segments_le (dir : String) : (segments dir.toList).length ≤ depth dir := by
  have hle := length_foldl_push_le (split dir.toList) []
  rw [segments, List.length_reverse]
  rwa [List.length_nil, Nat.zero_add] at hle

theorem toList_fromBelow_zero (path : String) : (fromBelow 0 path).toList = ['.'] ++ '/' :: path.toList := by
  rw [fromBelow, if_pos rfl, String.toList_append]
  rfl

theorem toList_fromBelow_succ (n : Nat) (path : String) :
    (fromBelow (n + 1) path).toList = (List.replicate (n + 1) ['.', '.', '/']).flatten ++ path.toList := by
  rw [fromBelow, if_neg (Nat.succ_ne_zero n), String.toList_append, String.toList_join, List.flatMap,
    List.map_replicate]
  rfl

/-- Each step to the parent takes off the segment that was put on last. -/
theorem foldl_push_steps (n : Nat) (path : List Char) (kept : List (List Char)) :
    (split ((List.replicate n ['.', '.', '/']).flatten ++ path)).foldl push kept =
      (split path).foldl push (kept.drop n) := by
  induction n generalizing kept with
  | zero => rfl
  | succ n ih =>
      have hstep : (List.replicate (n + 1) ['.', '.', '/']).flatten ++ path =
          ['.', '.'] ++ '/' :: ((List.replicate n ['.', '.', '/']).flatten ++ path) := by
        rw [List.replicate_succ, List.flatten_cons, List.append_assoc]
        rfl
      have hparent : (split ['.', '.']).foldl push kept = kept.tail := rfl
      rw [hstep, split_append rfl, List.foldl_append, hparent, ih, List.drop_tail]

theorem foldl_push_fromBelow (n : Nat) (path : String) (kept : List (List Char)) :
    (split (fromBelow n path).toList).foldl push kept =
      (split path.toList).foldl push (kept.drop n) := by
  cases n with
  | zero =>
      have hsame : (split ['.']).foldl push kept = kept := rfl
      rw [toList_fromBelow_zero, split_append rfl, List.foldl_append, hsame, List.drop_zero]
  | succ n =>
      rw [toList_fromBelow_succ]
      exact foldl_push_steps (n + 1) path.toList kept

/-- **Enough steps to the parent lead to the root**, from any directory. -/
theorem join_fromBelow (h : depth dir ≤ n) (path : String) :
    join dir (fromBelow n path) = normalize path := by
  have hup : (segments dir.toList).reverse.drop n = [] := by
    refine List.drop_eq_nil_of_le ?_
    rw [List.length_reverse]
    exact Nat.le_trans (length_segments_le dir) h
  rw [join_eq, normalize, toList_append_slash, segments_append, foldl_push_fromBelow, hup, normalize,
    segments]

end Path

/-! ## From file to file -/

namespace Resolution

variable {files : FileSet} {aliases : Aliases} {importer specifier path : String}

theorem isRelative_fromBelow (n : Nat) (path : String) : isRelative (Path.fromBelow n path) = true := by
  have hlead : (Path.fromBelow n path).startsWith "./" = true ∨
      (Path.fromBelow n path).startsWith "../" = true := by
    rw [String.startsWith_string_iff, String.startsWith_string_iff]
    cases n with
    | zero =>
        rw [Path.toList_fromBelow_zero]
        exact .inl ⟨path.toList, rfl⟩
    | succ n =>
        rw [Path.toList_fromBelow_succ, List.replicate_succ, List.flatten_cons, List.append_assoc]
        exact .inr (List.prefix_append _ _)
  unfold isRelative
  rcases hlead with h | h <;> simp [h]

theorem not_startsWith_slash_fromBelow (n : Nat) (path : String) :
    (Path.fromBelow n path).startsWith "/" = false := by
  rw [String.startsWith_string_eq_false_iff]
  cases n with
  | zero => simp [Path.toList_fromBelow_zero]
  | succ n => simp [Path.toList_fromBelow_succ, List.replicate_succ]

/-- **A path of the set is found before anything is added to it.** -/
theorem probe_of_mem_paths (h : path ∈ files.paths) (hne : path ≠ "") : probe files path = some path := by
  obtain ⟨f, _, hf, _⟩ := FileSet.get?_of_mem_paths h
  have hfound : (path != "" && files.contains path) = true := by
    rw [FileSet.contains, hf]
    simpa using hne
  rw [probe, if_pos hfound, FileSet.normalize_of_mem_paths h]

/-- A relative or absolute specifier stands for the file at its base. -/
theorem of_eq_inside (hr : isRelative specifier = true) (hb : base importer specifier = path)
    (h : path ∈ files.paths) (hne : path ≠ "") : of files aliases importer specifier = .inside path := by
  have hhost : ¬hostPackages.contains specifier = true := by
    rw [List.contains_iff_mem]
    intro hmem
    rw [isRelative_of_mem_hostPackages hmem] at hr
    cases hr
  have hfind : find? files aliases importer specifier = some path := by
    rw [find?, if_neg hhost, if_pos hr, hb]
    exact probe_of_mem_paths h hne
  rw [of, hfind]

theorem base_fromBelow {n : Nat} (hn : Path.depth (Path.parent importer) ≤ n) (h : path ∈ files.paths) :
    base importer (Path.fromBelow n path) = path := by
  rw [base, not_startsWith_slash_fromBelow, if_neg (by simp), Path.join_fromBelow hn,
    FileSet.normalize_of_mem_paths h]

theorem startsWith_slash (path : String) : ("/" ++ path).startsWith "/" = true := by
  rw [String.startsWith_string_iff, String.toList_append]
  exact List.prefix_append _ _

theorem base_slash (h : path ∈ files.paths) : base importer ("/" ++ path) = path := by
  have hslash : Path.normalize ("/" ++ path) = Path.normalize path := by
    rw [Path.normalize, Path.normalize, String.toList_append]
    exact congrArg (fun segs => String.ofList (Path.joined segs)) (Path.segments_slash path.toList)
  rw [base, if_pos (startsWith_slash path), hslash, FileSet.normalize_of_mem_paths h]

/-- **Every file can import every other.** A file of the set is what its path stands for behind as many
steps to the parent as the directory of the importer is deep, and behind a slash. Whatever a specifier
stands for is either a file of the set, by its path there, or the specifier itself. -/
theorem reaches_every_file (files : FileSet) (aliases : Aliases) (importer : String) :
    (∀ path ∈ files.paths, path ≠ "" →
      of files aliases importer (Path.fromBelow (Path.depth (Path.parent importer)) path) =
          .inside path ∧
        of files aliases importer ("/" ++ path) = .inside path) ∧
    ∀ specifier,
      (∀ path, of files aliases importer specifier = .inside path → path ∈ files.paths) ∧
      ∀ name, of files aliases importer specifier = .outside name → name = specifier := by
  refine ⟨fun path h hne => ⟨?_, ?_⟩, fun _ => ⟨fun _ => mem_paths_of_inside, fun _ => eq_of_outside⟩⟩
  · exact of_eq_inside (isRelative_fromBelow _ _) (base_fromBelow (Nat.le_refl _) h) h hne
  · have hr : isRelative ("/" ++ path) = true := by
      unfold isRelative
      simp [startsWith_slash]
    exact of_eq_inside hr (base_slash h) h hne

/-- A file beside others whose names go on where its own ends. -/
def crowded : FileSet :=
  .ofContents [("src/ui/Card.tsx", ""), ("lib/a", ""), ("lib/a.tsx", ""), ("lib/a/index.ts", "")]

/-- Two directories up and down again, the file itself is found. -/
theorem reaches_every_file_crowded :
    Path.fromBelow (Path.depth (Path.parent "src/ui/Card.tsx")) "lib/a" = "../../lib/a" ∧
      "lib/a" ∈ crowded.paths ∧
      of crowded [] "src/ui/Card.tsx" "../../lib/a" = .inside "lib/a" ∧
      of crowded [] "src/ui/Card.tsx" "/lib/a" = .inside "lib/a" := by
  have hroute : Path.fromBelow (Path.depth (Path.parent "src/ui/Card.tsx")) "lib/a" = "../../lib/a" := by
    decide +kernel
  have hmem : "lib/a" ∈ crowded.paths := by decide +kernel
  obtain ⟨hup, hdown⟩ := (reaches_every_file crowded [] "src/ui/Card.tsx").1 "lib/a" hmem (by decide)
  rw [hroute] at hup
  exact ⟨hroute, hmem, hup, hdown⟩

end Resolution

end AppMend
