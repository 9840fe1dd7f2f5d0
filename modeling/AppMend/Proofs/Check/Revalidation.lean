import AppMend.Check.Analyzer
import AppMend.Proofs.Check.Quotes
import AppMend.Proofs.FileSet.Lookup

/-!
# Reviewing repaired files again

A review repairs the quotes of imports and looks at the repaired text. A finding on a string that is
left open is dropped there when it lies on a line of a repair, as if it were about the quotes that were
repaired. But the text that was looked at is repaired already, so such a finding is about another string
of that line.

So a review of the repaired files repairs nothing more, and finds what the first one found and, in
addition, exactly what was dropped there (`revalidated`). If nothing was dropped, the second review has
nothing new, and it is valid if the first one is.
-/

namespace AppMend.Check

variable {a : Analyzer} {f g : File} {ls : List Nat} {x : Finding}

/-- The repaired version of a file that needs a repair, or else the file. -/
def mended (f : File) : File := ((repaired? f).map (·.1)).getD f

/-- The findings on a repaired file that its review drops. -/
def droppedOn (a : Analyzer) (f : File) : List Finding :=
  match repaired? f with
  | none => []
  | some (g, ls) => (a.structure_ g).filter (isRepeated ls)

/-- The findings that the review of a set drops. -/
def dropped (a : Analyzer) (files : FileSet) : List Finding := files.codeFiles.flatMap (droppedOn a)

/-- A set with the repairs that its review made. -/
def repairedSet (a : Analyzer) (files : FileSet) : FileSet :=
  files.overlay (reviewSyntax a files).fixedFiles

/-! ## Repaired files -/

theorem mended_of_none (h : repaired? f = none) : mended f = f := by
  rw [mended, h]; rfl

theorem mended_of_some (h : repaired? f = some (g, ls)) : mended f = g := by
  rw [mended, h]; rfl

theorem reviewFile_of_none (h : repaired? f = none) : reviewFile a f = (a.structure_ f, none) := by
  rw [reviewFile, h]

theorem reviewFile_of_some (h : repaired? f = some (g, ls)) : reviewFile a f =
    (ls.map (quoteFinding f.path) ++ (a.structure_ g).filter (!isRepeated ls ·), some g) := by
  rw [reviewFile, h]

theorem droppedOn_of_none (h : repaired? f = none) : droppedOn a f = [] := by
  rw [droppedOn, h]

theorem droppedOn_of_some (h : repaired? f = some (g, ls)) :
    droppedOn a f = (a.structure_ g).filter (isRepeated ls) := by
  rw [droppedOn, h]

theorem repaired?_withContent (h : repaired? f = some (g, ls)) :
    ∃ t, repairQuotes f.content.toList = some (t, ls) ∧ g = f.withContent (String.ofList t) := by
  obtain ⟨⟨t, ls'⟩, ht, heq⟩ := Option.map_eq_some_iff.mp h
  obtain ⟨rfl, rfl⟩ := Prod.mk.inj heq
  exact ⟨t, ht, rfl⟩

/-- A repaired file needs no repair. -/
theorem repaired?_mended (f : File) : repaired? (mended f) = none := by
  cases h : repaired? f with
  | none => rw [mended_of_none h, h]
  | some r =>
      obtain ⟨g, ls⟩ := r
      obtain ⟨t, ht, hg⟩ := repaired?_withContent h
      rw [mended_of_some h, hg, repaired?, File.withContent, String.toList_ofList,
        repairQuotes_repaired ht]
      rfl

theorem mended_mended (f : File) : mended (mended f) = mended f := mended_of_none (repaired?_mended f)

theorem path_mended (f : File) : (mended f).path = f.path := by
  cases h : repaired? f with
  | none => rw [mended_of_none h]
  | some r =>
      obtain ⟨g, ls⟩ := r
      obtain ⟨t, _, hg⟩ := repaired?_withContent h
      rw [mended_of_some h, hg]
      rfl

/-- A file as a review of its set leaves it. -/
def reviewed (f : File) : File := if f.isCode then mended f else f

theorem reviewed_of_isCode (h : f.isCode = true) : reviewed f = mended f := if_pos h

theorem path_reviewed (f : File) : (reviewed f).path = f.path := by
  unfold reviewed
  split
  · exact path_mended f
  · rfl

/-- A script stays one, for that is said by its path. -/
theorem isCode_reviewed (f : File) : (reviewed f).isCode = f.isCode := by
  rw [File.isCode, path_reviewed, File.isCode]

/-- **A set with its repairs has each of its files as the review leaves it.** -/
theorem files_repairedSet (a : Analyzer) (files : FileSet) :
    (repairedSet a files).files = files.files.map reviewed := by
  have hfixed : (reviewSyntax a files).fixedFiles
      = files.codeFiles.filterMap fun f => (repaired? f).map (·.1) := by
    have heach : (·.2) ∘ reviewFile a = fun f => (repaired? f).map (·.1) := by
      funext f
      rw [Function.comp_apply]
      cases h : repaired? f with
      | none => rw [reviewFile_of_none h]; rfl
      | some r => rw [reviewFile_of_some h]; rfl
    show (files.codeFiles.map (reviewFile a)).filterMap (·.2) = _
    rw [List.filterMap_map, heach]
  have hnew (f g : File) (h : (repaired? f).map (·.1) = some g) :
      g.path = f.path ∧ (f.Filed → g.Filed) := by
    obtain ⟨⟨g', ls⟩, hr, rfl⟩ := Option.map_eq_some_iff.mp h
    obtain ⟨t, _, rfl⟩ := repaired?_withContent hr
    exact ⟨rfl, fun hf => ⟨hf.path_eq, hf.language_eq⟩⟩
  unfold repairedSet
  rw [hfixed]
  exact FileSet.files_overlay_filterMap File.isCode hnew

/-- So what a path names is found there as the review leaves it. -/
theorem get?_repairedSet (a : Analyzer) (files : FileSet) (path : String) :
    (repairedSet a files).get? path = (files.get? path).map reviewed := by
  have hpath : (fun g : File => g.path == Path.normalize path) ∘ reviewed =
      fun g => g.path == Path.normalize path := by
    funext f
    rw [Function.comp_apply, path_reviewed]
  rw [FileSet.get?, FileSet.find?, files_repairedSet, List.find?_map, hpath]
  rfl

/-- The scripts of a set with its repairs are the repaired versions of its scripts. -/
theorem codeFiles_repairedSet (a : Analyzer) (files : FileSet) :
    (repairedSet a files).codeFiles = files.codeFiles.map mended := by
  have hcode : File.isCode ∘ reviewed = File.isCode := by
    funext f
    rw [Function.comp_apply, isCode_reviewed]
  unfold FileSet.codeFiles
  rw [files_repairedSet, List.filter_map, hcode]
  exact List.map_congr_left fun f hf => reviewed_of_isCode (List.mem_filter.mp hf).2

/-! ## Findings on a file -/

/-- A finding of an analyzer is on the file it looked at and about its structure, and nothing was done
about it. -/
theorem of_mem_structure (h : x ∈ a.structure_ f) :
    x.file = f.path ∧ x.autoFixed = false ∧ x.kind.isSyntax = true := by
  have scanned (h : x ∈ scannerFindings f) :
      x.file = f.path ∧ x.autoFixed = false ∧ x.kind.isSyntax = true := by
    rcases List.mem_append.mp h with h | h
    · obtain ⟨n, _, rfl⟩ := List.mem_map.mp h
      exact ⟨rfl, rfl, rfl⟩
    · obtain ⟨frame, _, rfl⟩ := List.mem_map.mp h
      exact ⟨rfl, rfl, rfl⟩
  cases a with
  | heuristic => exact scanned h
  | ast =>
      unfold Analyzer.structure_ structureFindings at h
      dsimp only at h
      split at h
      · split at h
        · obtain ⟨place, _, rfl⟩ := List.mem_map.mp h
          exact ⟨rfl, rfl, rfl⟩
        · exact scanned h
      · cases h

/-- A finding that is dropped is on the repaired text, and would fail the review. -/
theorem of_mem_droppedOn (h : x ∈ droppedOn a f) :
    x ∈ a.structure_ (mended f) ∧ x.isFailure = true := by
  cases hr : repaired? f with
  | none => rw [droppedOn_of_none hr] at h; cases h
  | some r =>
      obtain ⟨g, ls⟩ := r
      rw [droppedOn_of_some hr] at h
      obtain ⟨hx, hrep⟩ := List.mem_filter.mp h
      refine ⟨mended_of_some hr ▸ hx, ?_⟩
      have hkind : x.kind = .unterminatedString := eq_of_beq (Bool.and_eq_true_iff.mp hrep).1
      rw [Finding.isFailure, hkind, (of_mem_structure hx).2.1]
      rfl

/-- The review of a file has what its repaired text has, if it is not dropped. -/
theorem mem_reviewFile_iff (hx : x ∈ a.structure_ (mended f)) :
    x ∈ (reviewFile a f).1 ↔ x ∉ droppedOn a f := by
  cases hr : repaired? f with
  | none =>
      rw [mended_of_none hr] at hx
      rw [reviewFile_of_none hr, droppedOn_of_none hr]
      simp [hx]
  | some r =>
      obtain ⟨g, ls⟩ := r
      rw [mended_of_some hr] at hx
      have hquote : x ∉ ls.map (quoteFinding f.path) := by
        intro hq
        obtain ⟨n, _, rfl⟩ := List.mem_map.mp hq
        cases (of_mem_structure hx).2.1
      rw [reviewFile_of_some hr, droppedOn_of_some hr, List.mem_append, List.mem_filter,
        List.mem_filter]
      simp [hx, hquote]

/-- All else that the review of a file has are the repairs. -/
theorem of_mem_reviewFile (h : x ∈ (reviewFile a f).1) :
    x.file = f.path ∧ (x.autoFixed = true ∨ x ∈ a.structure_ (mended f)) := by
  have found (hx : x ∈ a.structure_ (mended f)) :
      x.file = f.path ∧ (x.autoFixed = true ∨ x ∈ a.structure_ (mended f)) :=
    ⟨(of_mem_structure hx).1.trans (path_mended f), .inr hx⟩
  cases hr : repaired? f with
  | none =>
      rw [reviewFile_of_none hr] at h
      exact found ((mended_of_none hr).symm ▸ h)
  | some r =>
      obtain ⟨g, ls⟩ := r
      rw [reviewFile_of_some hr] at h
      rcases List.mem_append.mp h with h | h
      · obtain ⟨n, _, rfl⟩ := List.mem_map.mp h
        exact ⟨rfl, .inl rfl⟩
      · exact found ((mended_of_some hr).symm ▸ (List.mem_filter.mp h).1)

/-! ## The two reviews -/

theorem mem_findings_iff {files : FileSet} :
    x ∈ (reviewSyntax a files).findings ↔ ∃ f ∈ files.codeFiles, x ∈ (reviewFile a f).1 := by
  show x ∈ (files.codeFiles.map (reviewFile a)).flatMap (·.1) ↔ _
  rw [List.flatMap_map, List.mem_flatMap]

/-- The second review repairs nothing and reads the repaired text of each script. -/
theorem reviewSyntax_repairedSet (a : Analyzer) (files : FileSet) :
    reviewSyntax a (repairedSet a files) =
      .ofFindings (files.codeFiles.flatMap fun f => a.structure_ (mended f)) [] := by
  have heach : reviewFile a ∘ mended = fun f => (a.structure_ (mended f), none) := by
    funext f
    exact reviewFile_of_none (repaired?_mended f)
  unfold reviewSyntax
  dsimp only
  rw [codeFiles_repairedSet, List.map_map, heach, List.flatMap_map, List.filterMap_map]
  exact congrArg (Review.ofFindings _) (List.filterMap_eq_nil_iff.mpr fun f _ => rfl)

/-- All analyzers leave the same files repaired. -/
theorem repairedSet_eq (a a' : Analyzer) (files : FileSet) : repairedSet a files = repairedSet a' files :=
  FileSet.ext (by rw [files_repairedSet, files_repairedSet])

theorem fixedFiles_repairedSet (a a' : Analyzer) (files : FileSet) :
    (reviewSyntax a (repairedSet a' files)).fixedFiles = [] := by
  rw [repairedSet_eq a' a, reviewSyntax_repairedSet]
  rfl

/-- **The second review repairs nothing, and its new findings are those that the first one dropped.** So
it has no new findings exactly if none were dropped, and then it is valid if the first one is. -/
theorem revalidated (a : Analyzer) (files : FileSet) :
    (reviewSyntax a (repairedSet a files)).fixedFiles = [] ∧
      (∀ x, x ∈ (reviewSyntax a (repairedSet a files)).findings ∧
        x ∉ (reviewSyntax a files).findings ↔ x ∈ dropped a files) ∧
      ((∀ x ∈ (reviewSyntax a (repairedSet a files)).findings,
        x ∈ (reviewSyntax a files).findings) ↔ dropped a files = []) ∧
      ((reviewSyntax a (repairedSet a files)).isValid = true ↔
        (reviewSyntax a files).isValid = true ∧ dropped a files = []) := by
  have hsecond (x : Finding) : x ∈ (reviewSyntax a (repairedSet a files)).findings ↔
      ∃ f ∈ files.codeFiles, x ∈ a.structure_ (mended f) := by
    rw [reviewSyntax_repairedSet]
    exact List.mem_flatMap
  have hnew (x : Finding) : x ∈ (reviewSyntax a (repairedSet a files)).findings ∧
      x ∉ (reviewSyntax a files).findings ↔ x ∈ dropped a files := by
    rw [hsecond, mem_findings_iff]
    constructor
    · rintro ⟨⟨f, hf, hx⟩, hno⟩
      refine List.mem_flatMap.mpr ⟨f, hf, Decidable.byContradiction fun hd => hno ⟨f, hf, ?_⟩⟩
      exact (mem_reviewFile_iff hx).mpr hd
    · intro hd
      obtain ⟨f, hf, hd⟩ := List.mem_flatMap.mp hd
      have hx := (of_mem_droppedOn hd).1
      refine ⟨⟨f, hf, hx⟩, ?_⟩
      rintro ⟨g, hg, hxg⟩
      -- a finding on the path of `f` is none on another file
      have hp : g.path = f.path := by
        rw [← (of_mem_reviewFile hxg).1, (of_mem_structure hx).1, path_mended]
      have hgf := FileSet.eq_of_path_eq (List.mem_filter.mp hg).1 (List.mem_filter.mp hf).1 hp
      exact (mem_reviewFile_iff hx).mp (hgf ▸ hxg) hd
  have hnone : (∀ x ∈ (reviewSyntax a (repairedSet a files)).findings,
      x ∈ (reviewSyntax a files).findings) ↔ dropped a files = [] := by
    rw [List.eq_nil_iff_forall_not_mem]
    constructor
    · intro hall x hd
      obtain ⟨hx, hno⟩ := (hnew x).mpr hd
      exact hno (hall x hx)
    · intro hd x hx
      exact Decidable.byContradiction fun hno => hd x ((hnew x).mp ⟨hx, hno⟩)
  have hvalid (files : FileSet) : (reviewSyntax a files).isValid = true ↔
      ∀ x ∈ (reviewSyntax a files).findings, x.isFailure = false := Review.isValid_ofFindings _ _
  refine ⟨by rw [reviewSyntax_repairedSet]; rfl, hnew, hnone, ?_⟩
  rw [hvalid, hvalid]
  constructor
  · intro h
    refine ⟨fun x hx => ?_, List.eq_nil_iff_forall_not_mem.mpr fun x hd => ?_⟩
    · -- what fails the first review is no repair, so the second one finds it again
      obtain ⟨f, hf, hxf⟩ := mem_findings_iff.mp hx
      rcases (of_mem_reviewFile hxf).2 with hfixed | hx'
      · rw [Finding.isFailure, hfixed]
        simp
      · exact h x ((hsecond x).mpr ⟨f, hf, hx'⟩)
    · obtain ⟨f, _, hdf⟩ := List.mem_flatMap.mp hd
      have hno := h x ((hnew x).mpr hd).1
      rw [(of_mem_droppedOn hdf).2] at hno
      cases hno
  · rintro ⟨hfirst, hd⟩ x hx
    exact hfirst x (hnone.mpr hd x hx)

/-- An import whose quotes do not match, and on its line a string that is left open. -/
def oneLine : FileSet := .ofContents [("src/App.tsx", "import a from \"./a'; const s = 'oops\n")]

/-- The first review of this set is valid, and the second one finds the open string. -/
theorem revalidated_oneLine :
    (reviewSyntax .heuristic oneLine).isValid = true ∧
      (reviewSyntax .heuristic (repairedSet .heuristic oneLine)).isValid = false ∧
      ∃ x ∈ (reviewSyntax .heuristic (repairedSet .heuristic oneLine)).findings,
        x ∉ (reviewSyntax .heuristic oneLine).findings := by
  decide +kernel

end AppMend.Check
