import AppMend.Pass

/-!
# What a pass comes to

A pass can be called off before each of its stages and while a browser renders its script. How far it
gets without a browser is `Pass.Ending`, one case for each place where stages stop; what it comes to in
the end is `Pass.Result`, whenever it is called off and whatever the browser answers.

`Pass.Balanced` says that the books of a pass agree: it has as many errors as its stages count, and a
stage failed exactly if it counts an error. So a pass that is not green has an error, and an error is all
that a diagnosis needs (`diagnosis?_eq_none_iff`). A pass that is green went through the bundler, with
the files it ends with (`Result.bundle_of_allGreen`).
-/

namespace AppMend

/-- A review is not valid exactly if something fails it. -/
theorem Review.isValid_eq_false_iff (findings : List Finding) (fixedFiles : List File) :
    (ofFindings findings fixedFiles).isValid = false
      ↔ 0 < (ofFindings findings fixedFiles).failureCount := by
  rw [failureCount, failures, List.length_pos_iff_exists_mem]
  simp [ofFindings]

theorem StageOutcome.of_eq_failed_iff (isValid isQuiet : Bool) :
    StageOutcome.of isValid isQuiet = .failed ↔ isValid = false := by
  cases isValid <;> cases isQuiet <;> simp [StageOutcome.of]

namespace Pass

variable {c : Config} {attempt : Nat} {files : FileSet} {p : Pass}

/-! ## The books of a pass -/

/-- How many errors some stages count together. -/
def counted : List StageResult → Nat
  | [] => 0
  | r :: rs => r.errorCount + counted rs

theorem counted_append (rs qs : List StageResult) : counted (rs ++ qs) = counted rs + counted qs := by
  induction rs with
  | nil => rw [List.nil_append, counted, Nat.zero_add]
  | cons r rs ih => rw [List.cons_append, counted, counted, ih, Nat.add_assoc]

theorem counted_pos_iff {rs : List StageResult} : 0 < counted rs ↔ ∃ r ∈ rs, 0 < r.errorCount := by
  induction rs with
  | nil => simp [counted]
  | cons r rs ih =>
      rw [counted, Nat.add_pos_iff_pos_or_pos, ih]
      simp

/-- The errors of a pass are those that its stages count, and the stages that count any failed. -/
structure Balanced (p : Pass) : Prop where
  errors_length : p.errors.length = counted p.stages
  failed_iff : ∀ r ∈ p.stages, r.outcome = .failed ↔ 0 < r.errorCount

theorem balanced_start (attempt : Nat) (files : FileSet) :
    Balanced { attempt := attempt, files := files } :=
  ⟨rfl, by intro r hr; simp at hr⟩

theorem Balanced.record (h : Balanced p) (r : StageResult) (errors : List DiagnosticError)
    (hr : r.outcome = .failed ↔ 0 < r.errorCount) (he : errors.length = r.errorCount) :
    Balanced (p.record r errors) where
  errors_length := by
    show (p.errors ++ errors).length = counted (p.stages ++ [r])
    rw [List.length_append, counted_append, h.errors_length, he]
    rfl
  failed_iff := by
    intro q hq
    rcases List.mem_append.mp hq with hq | hq
    · exact h.failed_iff q hq
    · rw [List.mem_singleton.mp hq]; exact hr

theorem Balanced.skipFrom (h : Balanced p) (s : Stage) : Balanced (p.skipFrom s) where
  errors_length := by
    -- the stages that are skipped count nothing
    have hskipped (ss : List Stage) :
        counted (ss.map fun s => { stage := s, outcome := .skipped }) = 0 := by
      induction ss with
      | nil => rfl
      | cons s ss ih => rw [List.map_cons, counted, ih]
    show p.errors.length = counted (p.stages ++ _)
    rw [counted_append, hskipped]
    exact h.errors_length
  failed_iff := by
    intro q hq
    rcases List.mem_append.mp hq with hq | hq
    · exact h.failed_iff q hq
    · obtain ⟨t, _, rfl⟩ := List.mem_map.mp hq
      simp

/-- Something failed exactly if there is an error. -/
theorem Balanced.hasFailed_iff (h : Balanced p) : p.hasFailed = true ↔ p.errors ≠ [] := by
  rw [← List.length_pos_iff, h.errors_length, counted_pos_iff]
  constructor
  · intro hf
    obtain ⟨r, hr, ho⟩ := List.any_eq_true.mp hf
    exact ⟨r, hr, (h.failed_iff r hr).mp (by simpa using ho)⟩
  · rintro ⟨r, hr, hpos⟩
    exact List.any_eq_true.mpr ⟨r, hr, by simpa using (h.failed_iff r hr).mpr hpos⟩

theorem Balanced.allGreen_iff (h : Balanced p) : p.allGreen = true ↔ p.errors = [] := by
  have hf := h.hasFailed_iff
  unfold allGreen
  cases he : p.errors <;> cases hp : p.hasFailed <;> simp_all

/-- **A pass has a diagnosis exactly if it is not green.** -/
theorem Balanced.diagnosis?_eq_none_iff (h : Balanced p) :
    p.diagnosis? = none ↔ p.allGreen = true := by
  unfold diagnosis?
  split
  · rename_i hg; simp [hg]
  · rw [Diagnosis.make?_eq_none_iff, h.allGreen_iff]

/-! ## Each stage keeps the books -/

/-- A review is recorded with the errors that it counts. -/
theorem Balanced.recordReview (h : Balanced p) (stage : Stage) (r : Review) (warnings : Nat)
    (hr : r.isValid = false ↔ 0 < r.failureCount) :
    Balanced (p.record
      { stage := stage
        outcome := .of r.isValid r.findings.isEmpty
        errorCount := r.failureCount
        warningCount := warnings }
      (r.failures.map .ofFinding)) :=
  h.record _ _ ((StageOutcome.of_eq_failed_iff _ _).trans hr) (List.length_map _)

theorem Balanced.checkStructure (h : Balanced p) (c : Config) : Balanced (checkStructure c p) := by
  have hr := h.recordReview .structural (Check.reviewSyntax c.analyzer p.files)
    ((Check.reviewSyntax c.analyzer p.files).findings.length
      - (Check.reviewSyntax c.analyzer p.files).failureCount) (Review.isValid_eq_false_iff _ _)
  exact ⟨hr.errors_length, hr.failed_iff⟩

theorem Balanced.checkQuality (h : Balanced p) (c : Config) : Balanced (checkQuality c p) := by
  have hr := h.recordReview .quality (Check.reviewQuality c.analyzer c.rules p.files)
    (Check.reviewQuality c.analyzer c.rules p.files).warningCount (Review.isValid_eq_false_iff _ _)
  exact ⟨hr.errors_length, hr.failed_iff⟩

theorem Balanced.makeBundle (h : Balanced p) (c : Config) : Balanced (makeBundle c p) := by
  have he : Balanced { p with entryPoint := (c.bundle.detectEntry p.files c.entry).toOption } :=
    ⟨h.errors_length, h.failed_iff⟩
  unfold Pass.makeBundle
  dsimp only
  split
  · have hr := he.record { stage := .bundle, outcome := .passed } [] (by simp) rfl
    exact ⟨hr.errors_length, hr.failed_iff⟩
  · rename_i failure _
    have hr := he.record { stage := .bundle, outcome := .failed, errorCount := 1 }
      [.ofBundleError failure.report] (by simp) rfl
    exact ⟨hr.errors_length, hr.failed_iff⟩

theorem Balanced.recordPreview (h : Balanced p) (v : Verdict) : Balanced (p.recordPreview v) := by
  have hv : v.isValid = false ↔ 0 < v.errors.length := by
    unfold Verdict.isValid
    cases v.errors <;> simp
  have hr := h.record ⟨.preview, _, _, v.warnings.length⟩ (v.errors.map .ofPreviewIssue)
    ((StageOutcome.of_eq_failed_iff _ v.warnings.isEmpty).trans hv) (by simp)
  exact ⟨hr.errors_length, hr.failed_iff⟩

/-! ## How far a pass gets -/

/-- A pass after its first stage. -/
def structured (c : Config) (attempt : Nat) (files : FileSet) : Pass :=
  checkStructure c { attempt := attempt, files := files }

/-- A pass after its second stage. -/
def checked (c : Config) (attempt : Nat) (files : FileSet) : Pass :=
  checkQuality c (structured c attempt files)

/-- A pass after its third stage. -/
def bundled (c : Config) (attempt : Nat) (files : FileSet) : Pass :=
  makeBundle c (checked c attempt files)

/-- The places where a pass stops without a browser. -/
inductive Ending (c : Config) (attempt : Nat) (files : FileSet) : Progress → Prop where
  | atStructure : (structured c attempt files).stops c = true →
      Ending c attempt files (.over ((structured c attempt files).skipFrom .quality))
  | atQuality : (structured c attempt files).stops c = false →
      (checked c attempt files).stops c = true →
      Ending c attempt files (.over ((checked c attempt files).skipFrom .bundle))
  | atBundle : (structured c attempt files).stops c = false →
      (checked c attempt files).stops c = false → (bundled c attempt files).bundle = none →
      Ending c attempt files (.over ((bundled c attempt files).skipFrom .preview))
  /-- There is no script to render. -/
  | atPreview {b : BundleArtifact} : (structured c attempt files).stops c = false →
      (checked c attempt files).stops c = false → (bundled c attempt files).bundle = some b →
      (bundled c attempt files).script? = none →
      Ending c attempt files (.over ((bundled c attempt files).skipFrom .preview))
  | rendering {b : BundleArtifact} {code entry : String} :
      (structured c attempt files).stops c = false →
      (checked c attempt files).stops c = false → (bundled c attempt files).bundle = some b →
      (bundled c attempt files).script? = some (code, entry) →
      Ending c attempt files (.toRender (bundled c attempt files) code entry)

theorem upToPreview_eq (c : Config) (off : Stage → Bool) (attempt : Nat) (files : FileSet) :
    upToPreview c off attempt files =
      if off .structural then .error .structural else
      if (structured c attempt files).stops c then
        .ok (.over ((structured c attempt files).skipFrom .quality)) else
      if off .quality then .error .quality else
      if (checked c attempt files).stops c then
        .ok (.over ((checked c attempt files).skipFrom .bundle)) else
      if off .bundle then .error .bundle else
      if (bundled c attempt files).bundle.isNone then
        .ok (.over ((bundled c attempt files).skipFrom .preview)) else
      if off .preview then .error .preview else
      match (bundled c attempt files).script? with
      | some (code, entry) => .ok (.toRender (bundled c attempt files) code entry)
      | none => .ok (.over ((bundled c attempt files).skipFrom .preview)) := rfl

/-- A pass that is not called off stops at one of these places. -/
theorem ending_of_upToPreview {off : Stage → Bool} {r : Progress}
    (h : upToPreview c off attempt files = .ok r) : Ending c attempt files r := by
  -- one stage after another: it is called off there, or it stops, or it goes on
  rw [upToPreview_eq] at h
  split at h
  · cases h
  split at h
  · rename_i hs
    rw [← Except.ok.inj h]; exact .atStructure hs
  rename_i hs
  split at h
  · cases h
  split at h
  · rename_i hq
    rw [← Except.ok.inj h]; exact .atQuality (by simpa using hs) hq
  rename_i hq
  split at h
  · cases h
  split at h
  · rename_i hb
    rw [← Except.ok.inj h]
    exact .atBundle (by simpa using hs) (by simpa using hq) (Option.isNone_iff_eq_none.mp hb)
  rename_i hb
  obtain ⟨b, hb⟩ := Option.ne_none_iff_exists'.mp (by simpa using hb)
  split at h
  · cases h
  split at h
  · rename_i hscript
    rw [← Except.ok.inj h]
    exact .rendering (by simpa using hs) (by simpa using hq) hb hscript
  · rename_i hscript
    rw [← Except.ok.inj h]
    exact .atPreview (by simpa using hs) (by simpa using hq) hb hscript

/-- What a pass can come to, when it is called off at any time and the browser answers anything. The
cause of an error is the stage that was called off. -/
inductive Result (c : Config) (attempt : Nat) (files : FileSet) : Except Stage Pass → Prop where
  | calledOff {off : Stage → Bool} {stage : Stage} :
      upToPreview c off attempt files = .error stage → Result c attempt files (.error stage)
  | unrendered {off : Stage → Bool} {p : Pass} :
      upToPreview c off attempt files = .ok (.over p) → Result c attempt files (.ok p)
  /-- It is called off while it is rendered. -/
  | abandoned {off : Stage → Bool} {p : Pass} {code entry : String} :
      upToPreview c off attempt files = .ok (.toRender p code entry) →
      Result c attempt files (.error .preview)
  | rendered {off : Stage → Bool} {p : Pass} {code entry : String}
      (answer : Except PreviewFailure Verdict) :
      upToPreview c off attempt files = .ok (.toRender p code entry) →
      Result c attempt files (.ok (p.finish entry answer))

/-! ## What every pass has in the end -/

theorem makeBundle_files (c : Config) (p : Pass) : (makeBundle c p).files = p.files := by
  unfold makeBundle; dsimp only; split <;> rfl

theorem makeBundle_attempt (c : Config) (p : Pass) : (makeBundle c p).attempt = p.attempt := by
  unfold makeBundle; dsimp only; split <;> rfl

/-- The bundle of a pass is what the bundler makes of its files. -/
theorem makeBundle_bundle (hp : p.bundle = none) {b : BundleArtifact}
    (h : (makeBundle c p).bundle = some b) : c.bundle.bundle p.files c.entry = .ok b := by
  unfold makeBundle at h
  dsimp only at h
  split at h
  · rename_i artifact ha
    rw [ha, Option.some.inj h]
  · rw [show _ = p.bundle from rfl, hp] at h; cases h

/-- A pass without a bundle failed. -/
theorem makeBundle_hasFailed (hp : (makeBundle c p).bundle = none) :
    (makeBundle c p).hasFailed = true := by
  unfold makeBundle at hp ⊢
  dsimp only at hp ⊢
  split at hp
  · cases hp
  · simp [hasFailed, record]

theorem hasFailed_skipFrom (p : Pass) (s : Stage) : (p.skipFrom s).hasFailed = p.hasFailed := by
  simp [hasFailed, skipFrom, Function.comp_def]

theorem allGreen_of_hasFailed (h : p.hasFailed = true) : p.allGreen = false := by
  simp [allGreen, h]

theorem hasFailed_of_stops (h : p.stops c = true) : p.hasFailed = true := by
  unfold stops at h
  exact (Bool.and_eq_true_iff.mp h).2

/-- What a pass is that went through its first three stages, with or without a preview. -/
structure Complete (c : Config) (attempt : Nat) (files : FileSet) (p : Pass) : Prop where
  balanced : Balanced p
  attempt_eq : p.attempt = attempt
  /-- It ends with its files repaired. -/
  files_eq : p.files = files.overlay (Check.reviewSyntax c.analyzer files).fixedFiles
  /-- If nothing failed, its bundle is what the bundler makes of the files it ends with. -/
  bundle_eq : p.hasFailed = false → ∃ b, p.bundle = some b ∧ c.bundle.bundle p.files c.entry = .ok b

theorem balanced_structured : Balanced (structured c attempt files) :=
  (balanced_start attempt files).checkStructure c

theorem balanced_checked : Balanced (checked c attempt files) :=
  balanced_structured.checkQuality c

theorem balanced_bundled : Balanced (bundled c attempt files) :=
  balanced_checked.makeBundle c

theorem files_bundled : (bundled c attempt files).files =
    files.overlay (Check.reviewSyntax c.analyzer files).fixedFiles := makeBundle_files _ _

theorem bundle_bundled {b : BundleArtifact} (h : (bundled c attempt files).bundle = some b) :
    c.bundle.bundle (bundled c attempt files).files c.entry = .ok b := by
  have := makeBundle_bundle (p := checked c attempt files) rfl h
  rwa [← makeBundle_files] at this

theorem Ending.complete (h : Ending c attempt files (.over p)) : Complete c attempt files p := by
  cases h with
  -- where it stops early, something failed
  | atStructure hs =>
      refine ⟨balanced_structured.skipFrom _, rfl, rfl, fun hf => ?_⟩
      rw [hasFailed_skipFrom, hasFailed_of_stops hs] at hf; cases hf
  | atQuality _ hq =>
      refine ⟨balanced_checked.skipFrom _, rfl, rfl, fun hf => ?_⟩
      rw [hasFailed_skipFrom, hasFailed_of_stops hq] at hf; cases hf
  | atBundle _ _ hb =>
      refine ⟨balanced_bundled.skipFrom _, makeBundle_attempt _ _, files_bundled, fun hf => ?_⟩
      rw [hasFailed_skipFrom, show (bundled c attempt files).hasFailed = true from
        makeBundle_hasFailed hb] at hf
      cases hf
  | atPreview _ _ hb _ =>
      exact ⟨balanced_bundled.skipFrom _, makeBundle_attempt _ _, files_bundled,
        fun _ => ⟨_, hb, bundle_bundled hb⟩⟩

theorem Ending.complete_finish {code entry : String} (h : Ending c attempt files (.toRender p code entry))
    (answer : Except PreviewFailure Verdict) : Complete c attempt files (p.finish entry answer) := by
  cases h with
  | rendering _ _ hb _ =>
      exact ⟨balanced_bundled.recordPreview _, makeBundle_attempt _ _, files_bundled,
        fun _ => ⟨_, hb, bundle_bundled hb⟩⟩

/-- **Whatever happens, a pass that comes to its end is complete.** -/
theorem Result.complete (h : Result c attempt files (.ok p)) : Complete c attempt files p := by
  cases h with
  | unrendered h => exact (ending_of_upToPreview h).complete
  | rendered answer h => exact (ending_of_upToPreview h).complete_finish answer

/-- **A green pass has a bundle, made of the files it ends with.** -/
theorem Result.bundle_of_allGreen (h : Result c attempt files (.ok p)) (hg : p.allGreen = true) :
    ∃ b, p.bundle = some b ∧ c.bundle.bundle p.files c.entry = .ok b := by
  refine h.complete.bundle_eq ?_
  cases hf : p.hasFailed with
  | false => rfl
  | true => rw [allGreen_of_hasFailed hf] at hg; cases hg

end Pass

end AppMend
