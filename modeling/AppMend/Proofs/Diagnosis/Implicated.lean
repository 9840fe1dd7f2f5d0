import AppMend.Proofs.Diagnosis.Mentions
import AppMend.Proofs.Diagnosis.Order

/-!
# Files that a message tells of

A message tells a path if it holds all of it, between blanks or quotation marks. What is mentioned in it then
are the stretches of the path that look like a path (`MentionAt.within`), and each stands for a file of the
set by its ending (`StandsFor`). A path of the usual characters is mentioned as it is. A path with brackets,
blanks or a dollar sign is mentioned in parts, and a part may stand for no file or for another one. So a file
that is told fails whatever the message and the other errors are exactly if a part of its path stands for it
(`failed_of_told_iff`).
-/

namespace AppMend.Diagnosis

open Text Pattern

variable {m a b : List Char} {files : FileSet} {p mention : String} {e : DiagnosticError}

/-! ## What a mention stands for -/

/-- A mention stands for the file of its path, and if there is none for the only one whose path ends in it. -/
def StandsFor (files : FileSet) (mention p : String) : Prop :=
  Path.normalize mention = p ∨
    Path.normalize mention ∉ files.paths ∧
      ∀ q ∈ files.paths, ("/" ++ Path.normalize mention).toList <:+ q.toList ↔ q = p

theorem nodup_paths (files : FileSet) : files.paths.Nodup := nodup_of_ascending (ascending_paths files)

/-- One path of a set is the only one of a kind if and only if it alone is left of that kind. -/
theorem filter_eq_singleton_iff {is : String → Bool} (hp : p ∈ files.paths) :
    files.paths.filter is = [p] ↔ ∀ q ∈ files.paths, is q = true ↔ q = p := by
  constructor
  · intro h q hq
    have hmem : q ∈ files.paths.filter is ↔ q = p := by rw [h, List.mem_singleton]
    rwa [List.mem_filter, and_iff_right hq] at hmem
  · intro h
    refine List.perm_singleton.mp ((List.perm_ext_iff_of_nodup ((nodup_paths files).filter _)
      (List.nodup_singleton p)).mpr fun q => ?_)
    rw [List.mem_filter, List.mem_singleton]
    constructor
    · rintro ⟨hq, his⟩
      exact (h q hq).mp his
    · rintro rfl
      exact ⟨hp, (h q hp).mpr rfl⟩

theorem mentioned?_eq_some_iff (hp : p ∈ files.paths) :
    mentioned? files mention = some p ↔ StandsFor files mention p := by
  unfold mentioned? StandsFor
  dsimp only
  cases hget : files.get? (Path.normalize mention) with
  | some f =>
      obtain ⟨hf, hpath⟩ := FileSet.get?_eq_some_iff.mp hget
      rw [Path.normalize_normalize] at hpath
      have hmem : Path.normalize mention ∈ files.paths := FileSet.mem_paths_iff.mpr ⟨f, hf, hpath⟩
      simp [hpath, hmem]
  -- no file has the path itself, so the one whose path ends in it is looked for
  | none =>
      have hno : Path.normalize mention ∉ files.paths := by
        intro hmem
        obtain ⟨f, _, hfound, _⟩ := FileSet.get?_of_mem_paths hmem
        rw [hget] at hfound
        cases hfound
      have hne : Path.normalize mention ≠ p := fun he => hno (he ▸ hp)
      have hfilter : files.paths.filter (fun q => ("/" ++ Path.normalize mention).toList.isSuffixOf q.toList) =
          [p] ↔ ∀ q ∈ files.paths, ("/" ++ Path.normalize mention).toList.isSuffixOf q.toList = true ↔ q = p :=
        filter_eq_singleton_iff hp
      simp only [List.isSuffixOf_iff_suffix] at hfilter
      simp only [hno, hne, false_or, not_false_eq_true, true_and, ← hfilter]
      split
      · rename_i only honly
        rw [honly]
        simp
      · rename_i hmany
        constructor
        · intro h
          cases h
        · intro h
          exact absurd h (hmany p)

/-! ## Paths in a message -/

def isQuote (c : Char) : Bool := c == '\'' || c == '"' || c == Char.ofNat 96

/-- A message holds all of a path, behind a blank or a quotation mark and before one, or before a colon. -/
def Tells (message path : List Char) : Prop :=
  ∃ a b, message = a ++ path ++ b ∧ (∀ c ∈ a.getLast?, isBlank c = true ∨ isQuote c = true) ∧
    ∀ c ∈ b.head?, isBlank c = true ∨ isQuote c = true ∨ c = ':'

/-- Whether a message tells a path is seen from the characters next to it. -/
theorem tells_of_all {message path a b : List Char} (hmessage : message = a ++ path ++ b)
    (hbefore : (a.getLast?.all fun c => isBlank c || isQuote c) = true)
    (hbehind : (b.head?.all fun c => isBlank c || isQuote c || c == ':') = true) : Tells message path := by
  refine ⟨a, b, hmessage, fun c hc => ?_, fun c hc => ?_⟩
  · rw [Option.mem_def.mp hc] at hbefore
    simpa using hbefore
  · rw [Option.mem_def.mp hc] at hbehind
    simpa [or_assoc] using hbehind

theorem isPathPart_of_isBlank {c : Char} (h : isBlank c = true) : isPathPart c = false := by
  have hother : "@./-".toList.contains c = false := by
    refine Bool.eq_false_iff.mpr fun hmem => ?_
    have hc : c = '@' ∨ c = '.' ∨ c = '/' ∨ c = '-' := by simpa using hmem
    rcases hc with rfl | rfl | rfl | rfl <;> revert h <;> decide
  rw [isPathPart, isWord_of_isBlank h, hother]
  rfl

theorem isPathPart_of_isQuote {c : Char} (h : isQuote c = true) : isPathPart c = false := by
  simp only [isQuote, Bool.or_eq_true, beq_iff_eq] at h
  rcases h with (rfl | rfl) | rfl <;> decide

/-- **What is mentioned in a path is mentioned in a message that tells the path.** -/
theorem MentionAt.within {before after : List Char} (h : MentionAt a m b)
    (hbefore : ∀ c ∈ before.getLast?, isPathPart c = false)
    (hafter : ∀ c ∈ after.head?, isPathPart c = false) : MentionAt (before ++ a) m (b ++ after) where
  begins := by
    rw [List.getLast?_append]
    cases ha : a.getLast? with
    | none => exact hbefore
    | some c => exact fun d hd => h.begins d (ha ▸ hd)
  pathLike := h.pathLike
  ends := by
    unfold NoWord
    rw [List.head?_append]
    cases hb : b.head? with
    | none =>
        intro c hc
        exact Bool.eq_false_iff.mpr fun hword => by
          have := isPathPart_of_isWord hword
          rw [hafter c hc] at this
          cases this
    | some c => exact fun d hd => h.ends d (hb ▸ hd)
  longest := by
    intro w z hw hlike hz
    rcases List.append_eq_append_iff.mp hw with ⟨t, ht, hrest⟩ | ⟨t, ht, hrest⟩
    · -- it cannot go on beyond the path
      have hnil : t = [] := by
        refine Classical.byContradiction fun hne => ?_
        obtain ⟨c, t, rfl⟩ := List.exists_cons_of_ne_nil hne
        have hpart := hlike.isPathPart_of_mem c (by rw [ht]; simp)
        rw [hafter c (by rw [hrest]; rfl)] at hpart
        cases hpart
      rw [hnil, List.append_nil] at ht
      subst ht
      exact h.longest w [] (List.append_nil w).symm hlike (by simp [NoWord])
    · refine h.longest w t ht hlike ?_
      intro c hc
      exact hz c (by rw [hrest, List.head?_append, hc]; rfl)

/-- A file is told by its own path: some part of the path stands for it. -/
def Told (files : FileSet) (p : String) : Prop :=
  ∃ mention, (∃ a b, p.toList = a ++ mention.toList ++ b ∧ MentionAt a mention.toList b) ∧
    StandsFor files mention p

theorem told_iff (hp : p ∈ files.paths) :
    Told files p ↔ ∃ mention ∈ mentions p.toList, mentioned? files mention = some p := by
  simp only [Told, mem_mentions_iff, mentioned?_eq_some_iff hp]

/-- A path of the usual characters is told. -/
theorem told_of_pathLike (hp : p ∈ files.paths) (h : PathLike p.toList) : Told files p := by
  refine ⟨p, ⟨[], [], by simp, ?_⟩, .inl (FileSet.normalize_of_mem_paths hp)⟩
  exact ⟨by simp, h, by simp [NoWord], fun w z hw _ _ => (List.append_eq_nil_iff.mp hw.symm).1⟩

/-! ## The files that fail -/

/-- A message that tells a path mentions the file, if a part of the path stands for it. -/
theorem mem_implicated_of_tells (hp : p ∈ files.paths) (ht : Told files p)
    (h : Tells e.message.toList p.toList) : p ∈ implicated files e := by
  obtain ⟨mention, ⟨a, b, hpath, hm⟩, hstands⟩ := ht
  obtain ⟨before, after, hmessage, hbefore, hafter⟩ := h
  have hmention : mention ∈ mentions e.message.toList := by
    refine mem_mentions_iff.mpr ⟨before ++ a, b ++ after, by rw [hmessage, hpath]; simp, ?_⟩
    refine hm.within (fun c hc => ?_) fun c hc => ?_
    · rcases hbefore c hc with hc | hc
      · exact isPathPart_of_isBlank hc
      · exact isPathPart_of_isQuote hc
    · rcases hafter c hc with hc | hc | rfl
      · exact isPathPart_of_isBlank hc
      · exact isPathPart_of_isQuote hc
      · decide
  exact List.mem_append_right _
    (List.mem_filterMap.mpr ⟨mention, hmention, (mentioned?_eq_some_iff hp).mpr hstands⟩)

/-- An error of which nothing is known but a message. -/
def unplaced (message : String) : DiagnosticError := { category := .runtimeError, origin := .preview, message }

theorem not_mem_implicated_unplaced (hp : p ∈ files.paths) (h : ¬Told files p) :
    p ∉ implicated files (unplaced p) := by
  intro hmem
  obtain ⟨mention, hmention, hm⟩ := List.mem_filterMap.mp hmem
  exact h ((told_iff hp).mpr ⟨mention, hmention, hm⟩)

/-- If no part of its path stands for a file, it does not fail when its path is all that is known, unless
there is no other file to mend. -/
theorem exists_not_failed (hp : p ∈ files.paths) (h : ¬Told files p)
    (hother : ¬(files.paths = [p] ∧ isCodePath p = true)) :
    ∃ entry, p ∉ failedFilesOf [unplaced p] files entry := by
  have hno : p ∉ sortedTexts ([unplaced p].flatMap (implicated files)) := by
    rw [mem_sortedTexts, List.flatMap_singleton]
    exact not_mem_implicated_unplaced hp h
  by_cases hall : ∀ q ∈ files.paths, q = p
  · -- the only file of the set is no script, and there is no entry
    have hpaths : files.paths = [p] :=
      List.perm_singleton.mp ((List.perm_ext_iff_of_nodup (nodup_paths files) (List.nodup_singleton p)).mpr
        fun q => by
          rw [List.mem_singleton]
          exact ⟨hall q, fun hq => hq ▸ hp⟩)
    have hcode : files.codeFiles = [] := by
      refine List.filter_eq_nil_iff.mpr fun f hf hcode => hother ⟨hpaths, ?_⟩
      rw [← hall f.path (FileSet.mem_paths_iff.mpr ⟨f, hf, rfl⟩)]
      exact hcode
    refine ⟨none, fun hmem => ?_⟩
    unfold failedFilesOf at hmem
    split at hmem
    · simp [hcode] at hmem
    · exact hno hmem
  · -- another file is the entry
    obtain ⟨q, hq⟩ := not_forall.mp hall
    obtain ⟨hq, hqp⟩ := Classical.not_imp.mp hq
    obtain ⟨f, _, hget, hf⟩ := FileSet.get?_of_mem_paths hq
    refine ⟨some q, fun hmem => ?_⟩
    unfold failedFilesOf at hmem
    split at hmem
    · simp only [Option.bind_some, hget, List.mem_singleton] at hmem
      exact hqp (hf.symm.trans hmem.symm)
    · exact hno hmem

/-- The only file of a set fails if it is a script. -/
theorem mem_failedFilesOf_alone {errors : List DiagnosticError} {entry : Option String}
    (hpaths : files.paths = [p]) (hcode : isCodePath p = true) : p ∈ failedFilesOf errors files entry := by
  have hscripts : files.codeFiles ≠ [] := by
    obtain ⟨f, hf, hfp⟩ := FileSet.mem_paths_iff.mp (show p ∈ files.paths by simp [hpaths])
    have hmem : f ∈ files.codeFiles := List.mem_filter.mpr ⟨hf, by rw [File.isCode, hfp]; exact hcode⟩
    exact List.ne_nil_of_mem hmem
  have hne : failedFilesOf errors files entry ≠ [] := failedFilesOf_ne_nil hscripts
  obtain ⟨q, hq⟩ := List.exists_mem_of_ne_nil _ hne
  have hqp : q = p := by simpa [hpaths] using mem_paths_of_failed hq
  exact hqp ▸ hq

/-- **A file that a message tells of fails, whatever the message says besides and whatever the other errors
are, exactly if a part of its path stands for it**, or if it is the only file and a script. A part does if the
path is made of the usual characters, with a point and an extension behind them. -/
theorem failed_of_told_iff (hp : p ∈ files.paths) :
    (PathLike p.toList → Told files p) ∧
      ((∀ errors entry attempt, ∀ e ∈ errors, Tells e.message.toList p.toList →
          ∃ d, make? errors files entry attempt = some d ∧ p ∈ d.failedFiles) ↔
        Told files p ∨ files.paths = [p] ∧ isCodePath p = true) := by
  refine ⟨told_of_pathLike hp, fun hall => ?_, fun h errors entry attempt e he htells => ?_⟩
  · refine or_iff_not_imp_left.mpr fun htold => Classical.byContradiction fun hother => ?_
    obtain ⟨entry, hno⟩ := exists_not_failed hp htold hother
    have htells : Tells (unplaced p).message.toList p.toList := ⟨[], [], by simp [unplaced], by simp, by simp⟩
    obtain ⟨d, hd, hmem⟩ := hall [unplaced p] entry 0 (unplaced p) List.mem_cons_self htells
    rw [(contents_of_make? hd).1] at hmem
    exact hno hmem
  · have hmade : make? errors files entry attempt ≠ none := by
      rw [Ne, make?_eq_none_iff]
      exact List.ne_nil_of_mem he
    obtain ⟨d, hd⟩ := Option.ne_none_iff_exists'.mp hmade
    refine ⟨d, hd, ?_⟩
    rw [(contents_of_make? hd).1]
    rcases h with htold | ⟨hpaths, hcode⟩
    · exact mem_failedFilesOf_of_implicated he (mem_implicated_of_tells hp htold htells)
    · exact mem_failedFilesOf_alone hpaths hcode

/-- A page in a directory that stands for a part of its address. -/
def routed : FileSet := .ofContents [("app/[id]/page.tsx", ""), ("app/layout.tsx", "")]

/-- The end of the path is mentioned, and no other path ends so. -/
theorem failed_of_told_routed :
    let e := unplaced "TypeError: 'app/[id]/page.tsx': n is undefined"
    "app/[id]/page.tsx" ∈ routed.paths ∧ Tells e.message.toList "app/[id]/page.tsx".toList ∧
      ∃ d, make? [unplaced "in app/layout.tsx:3", e] routed none 1 = some d ∧
        "app/[id]/page.tsx" ∈ d.failedFiles := by
  intro e
  have hp : "app/[id]/page.tsx" ∈ routed.paths := by decide +kernel
  have htells : Tells e.message.toList "app/[id]/page.tsx".toList :=
    tells_of_all (a := "TypeError: '".toList) (b := "': n is undefined".toList) (by decide) (by decide) (by decide)
  have htold : Told routed "app/[id]/page.tsx" :=
    (told_iff hp).mpr ⟨"/page.tsx", by decide +kernel, by decide +kernel⟩
  exact ⟨hp, htells, (failed_of_told_iff hp).2.mpr (.inl htold) _ none 1 e (by simp) htells⟩

/-- **A message tells all of a path, and the file does not fail**: the path has a dollar sign, and what is
mentioned behind it stands for no file. -/
theorem not_failed_dollar :
    let files : FileSet := .ofContents [("src/$id.tsx", ""), ("src/main.tsx", "")]
    let e := unplaced "TypeError in src/$id.tsx: n is undefined"
    "src/$id.tsx" ∈ files.paths ∧ Path.extension? "src/$id.tsx" = some "tsx" ∧
      Tells e.message.toList "src/$id.tsx".toList ∧
      (make? [e] files (some "src/main.tsx") 0).map (·.failedFiles) = some ["src/main.tsx"] := by
  intro files e
  exact ⟨by decide +kernel, by decide +kernel,
    tells_of_all (a := "TypeError in ".toList) (b := ": n is undefined".toList) (by decide) (by decide) (by decide),
    by decide +kernel⟩

end AppMend.Diagnosis
