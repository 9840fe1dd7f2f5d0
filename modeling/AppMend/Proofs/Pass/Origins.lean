import Mathlib.Data.List.Basic
import AppMend.Proofs.Check.Revalidation
import AppMend.Proofs.Pass.Gates

/-!
# Where the errors of a pass come from

Each stage counts its errors, and each error says from which stage it comes. An error of the bundler or
of the preview says so itself. A finding does not: its stage is told by its kind, and one kind is found
by two stages. Markup in a file whose type has none is found against the conventions, but it is of the
kind of a fault in the structure. Such errors are `misplaced`: the second stage counts them, and they
say that they come from the first.

All other errors come from the stage that counts them (`Sourced`), which every stage keeps. So a pass
whose conventions were not checked, or that has no such file, tells the origin of each error right, and
only such a pass does (`attributed`).
-/

namespace AppMend

namespace Check

variable {a : Analyzer} {f : File} {files : FileSet} {rules : Rules} {x : Finding}

/-! ## Findings and their kinds -/

/-- All that a review of the structure finds is of a kind about structure. -/
theorem isSyntax_of_mem_reviewSyntax (h : x ∈ (reviewSyntax a files).findings) :
    x.kind.isSyntax = true := by
  obtain ⟨f, _, hx⟩ := mem_findings_iff.mp h
  cases hr : repaired? f with
  | none =>
      rw [reviewFile_of_none hr] at hx
      exact (of_mem_structure hx).2.2
  | some r =>
      rw [reviewFile_of_some hr] at hx
      rcases List.mem_append.mp hx with hx | hx
      · obtain ⟨n, _, rfl⟩ := List.mem_map.mp hx
        rfl
      · exact (of_mem_structure (List.mem_filter.mp hx).1).2.2

theorem isSyntax_of_markup {path : String} {imports : List Import} {i : MarkupIssue}
    (h : i.finding? path rules imports = some x) : x.kind.isSyntax = false := by
  unfold MarkupIssue.finding? at h
  split at h
  · cases h; rfl
  · cases h; rfl
  · cases h; rfl
  · split at h
    · cases h
    · cases h; rfl

/-- Of what a file has against the conventions, its markup is of a kind about structure if its type has
none. -/
theorem filter_quality (a : Analyzer) (f : File) (rules : Rules) :
    (a.quality f rules).filter (·.kind.isSyntax) = (fileTypeFinding? f).toList := by
  have hmarkup : (markupFindings f rules (a.issues f)).filter (·.kind.isSyntax) = [] := by
    refine List.filter_eq_nil_iff.mpr fun x hx => ?_
    obtain ⟨i, _, hi⟩ := List.mem_filterMap.mp hx
    simp [isSyntax_of_markup hi]
  unfold Analyzer.quality
  rw [List.filter_append, filter_textFindings, hmarkup, List.append_nil]

/-- **What fails a review of the conventions and is of a kind about structure**: markup in the files
whose type has none, one finding for each. -/
theorem filter_failures_reviewQuality (a : Analyzer) (rules : Rules) (files : FileSet) :
    (reviewQuality a rules files).failures.filter (·.kind.isSyntax)
      = files.codeFiles.filterMap fileTypeFinding? := by
  have hfail (f : File) : (fileTypeFinding? f).toList.filter (·.isFailure) = (fileTypeFinding? f).toList := by
    refine List.filter_eq_self.mpr fun x hx => ?_
    obtain ⟨hk, ha⟩ := kind_of_fileTypeFinding (Option.mem_toList.mp hx)
    rw [Finding.isFailure, hk, ha]
    rfl
  show ((files.codeFiles.flatMap fun f => a.quality f rules).filter (·.isFailure)).filter _ = _
  rw [List.filter_filter, List.filterMap_eq_flatMap_toList, List.filter_flatMap]
  refine congrArg (files.codeFiles.flatMap ·) (funext fun f => ?_)
  rw [← hfail, ← filter_quality a f rules, List.filter_filter]
  exact List.filter_congr fun x _ => Bool.and_comm _ _

end Check

namespace Pass

variable {c : Config} {attempt : Nat} {files : FileSet} {p : Pass} {r : StageResult}
  {rs : List StageResult} {es : List DiagnosticError} {stage : Stage}

/-! ## Errors by the stage they name and by the stage that counts them -/

/-- How many errors say that they come from a stage. -/
def said (stage : Stage) (es : List DiagnosticError) : Nat := es.countP (·.origin == stage)

/-- How many errors a stage counts. -/
def countedBy (stage : Stage) (rs : List StageResult) : Nat := counted (rs.filter (·.stage == stage))

/-- What fails the conventions and is of a kind about structure. -/
def misplaced (p : Pass) : List Finding :=
  match p.quality with
  | some r => r.failures.filter (·.kind.isSyntax)
  | none => []

theorem said_append (stage : Stage) (es fs : List DiagnosticError) :
    said stage (es ++ fs) = said stage es + said stage fs := List.countP_append

theorem said_of_forall {s : Stage} (h : ∀ e ∈ es, e.origin = s) :
    said stage es = if s = stage then es.length else 0 := by
  unfold said
  split
  · rename_i hs
    exact List.countP_eq_length.mpr fun e he => by simp [h e he, hs]
  · rename_i hs
    exact List.countP_eq_zero.mpr fun e he => by simp [h e he, hs]

theorem countedBy_append (stage : Stage) (rs qs : List StageResult) :
    countedBy stage (rs ++ qs) = countedBy stage rs + countedBy stage qs := by
  rw [countedBy, List.filter_append, counted_append]
  rfl

theorem countedBy_singleton (stage : Stage) (r : StageResult) :
    countedBy stage [r] = if r.stage = stage then r.errorCount else 0 := by
  by_cases h : r.stage = stage <;> simp [countedBy, counted, h]

/-- A stage that stands once counts what its result says. -/
theorem countedBy_of_mem (hd : (rs.map (·.stage)).Nodup) (hr : r ∈ rs) :
    countedBy r.stage rs = r.errorCount := by
  induction rs with
  | nil => cases hr
  | cons q rs ih =>
      rw [List.map_cons, List.nodup_cons] at hd
      have hcons : countedBy r.stage (q :: rs) = countedBy r.stage [q] + countedBy r.stage rs :=
        countedBy_append r.stage [q] rs
      rw [hcons, countedBy_singleton]
      rcases List.mem_cons.mp hr with rfl | hr
      · -- no other result is of its stage
        have hnone : rs.filter (·.stage == r.stage) = [] := by
          refine List.filter_eq_nil_iff.mpr fun q hq => ?_
          have hne : q.stage ≠ r.stage := fun he => hd.1 (he ▸ List.mem_map_of_mem hq)
          simpa using hne
        rw [if_pos rfl, countedBy, hnone]
        rfl
      · have hne : q.stage ≠ r.stage := fun he => hd.1 (he ▸ List.mem_map_of_mem hr)
        rw [if_neg hne, ih hd.2 hr, Nat.zero_add]

/-! ## Errors made of findings -/

/-- The stage that a finding says it comes from. -/
theorem origin_ofFinding (x : Finding) :
    (DiagnosticError.ofFinding x).origin = if x.kind.isSyntax then .structural else .quality := by
  unfold DiagnosticError.ofFinding
  cases hs : x.kind.isSyntax with
  | true => rfl
  | false =>
      by_cases hm : x.kind = .missingImport
      · simp [hm]
      · simp [hm]

theorem said_structural_map (xs : List Finding) :
    said .structural (xs.map .ofFinding) = (xs.filter (·.kind.isSyntax)).length := by
  rw [said, List.countP_map, List.countP_eq_length_filter]
  refine congrArg List.length (List.filter_congr fun x _ => ?_)
  rw [Function.comp_apply, origin_ofFinding]
  cases x.kind.isSyntax <;> rfl

theorem said_map_eq_zero (xs : List Finding) (hs : stage ≠ .structural) (hq : stage ≠ .quality) :
    said stage (xs.map .ofFinding) = 0 := by
  refine List.countP_eq_zero.mpr fun e he => ?_
  obtain ⟨x, _, rfl⟩ := List.mem_map.mp he
  rw [origin_ofFinding]
  split <;> simp [Ne.symm hs, Ne.symm hq]

/-- All findings come from the first stage or from the second. -/
theorem said_map_add (xs : List Finding) :
    said .quality (xs.map .ofFinding) + (xs.filter (·.kind.isSyntax)).length = xs.length := by
  induction xs with
  | nil => rfl
  | cons x xs ih =>
      have hcons : said .quality ((x :: xs).map .ofFinding)
          = said .quality [DiagnosticError.ofFinding x] + said .quality (xs.map .ofFinding) :=
        said_append .quality [_] _
      have hone : said .quality [DiagnosticError.ofFinding x] = if x.kind.isSyntax then 0 else 1 := by
        rw [said, List.countP_singleton, origin_ofFinding]
        cases x.kind.isSyntax <;> rfl
      rw [hcons, hone, List.filter_cons, List.length_cons]
      cases x.kind.isSyntax with
      | true => simp only [if_true, List.length_cons]; omega
      | false => simp only [Bool.false_eq_true, if_false]; omega

/-! ## What every stage keeps -/

/-- How many errors are misplaced, as the second stage has it. -/
def lent (stage : Stage) (n : Nat) : Nat := if stage = .quality then n else 0

/-- How many errors are misplaced, as the first stage has it. -/
def borrowed (stage : Stage) (n : Nat) : Nat := if stage = .structural then n else 0

/-- Apart from those that are misplaced, errors come from the stage that counts them. -/
def Sourced (p : Pass) : Prop :=
  ∀ stage, said stage p.errors + lent stage (misplaced p).length
    = countedBy stage p.stages + borrowed stage (misplaced p).length

theorem sourced_start (attempt : Nat) (files : FileSet) :
    Sourced { attempt := attempt, files := files } := by
  intro stage
  cases stage <;> rfl

/-- A stage whose errors all come from it. -/
theorem Sourced.record (h : Sourced p) {q : Pass} (hstages : q.stages = p.stages ++ [r])
    (herrors : q.errors = p.errors ++ es) (hquality : q.quality = p.quality)
    (hs : ∀ e ∈ es, e.origin = r.stage) (hl : es.length = r.errorCount) : Sourced q := by
  intro stage
  have hm : misplaced q = misplaced p := by rw [misplaced, hquality]; rfl
  have hp := h stage
  rw [hm, hstages, herrors, said_append, countedBy_append, countedBy_singleton, said_of_forall hs, hl]
  omega

theorem Sourced.skipFrom (h : Sourced p) (s : Stage) : Sourced (p.skipFrom s) := by
  intro stage
  -- what is skipped counts nothing
  have hskipped (ss : List Stage) :
      countedBy stage (ss.map fun t => { stage := t, outcome := .skipped }) = 0 := by
    induction ss with
    | nil => rfl
    | cons s ss ih =>
        have hcons := countedBy_append stage [(⟨s, .skipped, 0, 0⟩ : StageResult)]
          (ss.map fun t => { stage := t, outcome := .skipped })
        rw [List.map_cons]
        refine hcons.trans ?_
        rw [ih, countedBy_singleton]
        split <;> rfl
  have hp := h stage
  show said stage p.errors + lent stage (misplaced p).length
    = countedBy stage (p.stages ++ _) + borrowed stage (misplaced p).length
  rw [countedBy_append, hskipped]
  exact hp

theorem sourced_structured : Sourced (structured c attempt files) := by
  refine (sourced_start attempt files).record rfl rfl rfl ?_ (List.length_map _)
  intro e he
  obtain ⟨x, hx, rfl⟩ := List.mem_map.mp he
  have hsyntax := Check.isSyntax_of_mem_reviewSyntax (List.mem_filter.mp hx).1
  rw [origin_ofFinding, hsyntax]
  rfl

/-- **The second stage misplaces some of its errors.** -/
theorem sourced_checked : Sourced (checked c attempt files) := by
  intro stage
  have hsourced : Sourced (structured c attempt files) := sourced_structured
  have hp := hsourced stage
  have hzero : misplaced (structured c attempt files) = [] := rfl
  let r := Check.reviewQuality c.analyzer c.rules (structured c attempt files).files
  have hm : misplaced (checked c attempt files) = r.failures.filter (·.kind.isSyntax) := rfl
  have herrors : (checked c attempt files).errors
      = (structured c attempt files).errors ++ r.failures.map .ofFinding := rfl
  have hstages : (checked c attempt files).stages = (structured c attempt files).stages ++
      [⟨.quality, .of r.isValid r.findings.isEmpty, r.failures.length, r.warningCount⟩] := rfl
  rw [hm, herrors, hstages, said_append, countedBy_append, countedBy_singleton]
  rw [hzero] at hp
  have hstructural := said_structural_map r.failures
  have hquality := said_map_add r.failures
  cases stage with
  | structural => simp [lent, borrowed] at hp ⊢; omega
  | quality => simp [lent, borrowed] at hp ⊢; omega
  | bundle =>
      have hother : said .bundle (r.failures.map .ofFinding) = 0 :=
        said_map_eq_zero r.failures (by decide) (by decide)
      simp [lent, borrowed] at hp ⊢
      omega
  | preview =>
      have hother : said .preview (r.failures.map .ofFinding) = 0 :=
        said_map_eq_zero r.failures (by decide) (by decide)
      simp [lent, borrowed] at hp ⊢
      omega

theorem sourced_bundled : Sourced (bundled c attempt files) := by
  have hp : Sourced (checked c attempt files) := sourced_checked
  cases h : c.bundle.bundle (checked c attempt files).files c.entry with
  | ok artifact =>
      rw [bundled, makeBundle_of_ok h]
      exact @Sourced.record _ ⟨.bundle, .passed, 0, 0⟩ [] hp _ rfl rfl rfl (by simp) rfl
  | error e =>
      rw [bundled, makeBundle_of_error h]
      exact @Sourced.record _ ⟨.bundle, .failed, 1, 0⟩ [.ofBundleError e.report] hp _ rfl rfl rfl
        (by simp [DiagnosticError.ofBundleError]) rfl

theorem Sourced.finish (h : Sourced p) (entry : String) (answer : Except PreviewFailure Verdict) :
    Sourced (p.finish entry answer) := by
  refine h.record rfl rfl rfl ?_ (List.length_map _)
  intro e he
  obtain ⟨i, _, rfl⟩ := List.mem_map.mp he
  rfl

theorem Ending.sourced (h : Ending c attempt files (.over p)) : Sourced p := by
  cases h with
  | atStructure => exact sourced_structured.skipFrom _
  | atQuality => exact sourced_checked.skipFrom _
  | atBundle | atPreview => exact sourced_bundled.skipFrom _

theorem Ending.sourced_finish {code entry : String} (h : Ending c attempt files (.toRender p code entry))
    (answer : Except PreviewFailure Verdict) : Sourced (p.finish entry answer) := by
  cases h with
  | rendering => exact sourced_bundled.finish entry answer

theorem sourced_of_result (h : Result c attempt files (.ok p)) : Sourced p := by
  cases h with
  | unrendered h => exact (ending_of_upToPreview h).sourced
  | rendered answer h => exact (ending_of_upToPreview h).sourced_finish answer

/-! ## Whose errors are misplaced -/

/-- The conventions were not checked, or the files were that the pass ends with. -/
theorem quality_of_result (h : Result c attempt files (.ok p)) :
    p.quality = none ∨ p.quality = some (Check.reviewQuality c.analyzer c.rules p.files) := by
  have bundled_eq : (bundled c attempt files).quality
      = some (Check.reviewQuality c.analyzer c.rules (bundled c attempt files).files) := by
    rw [(reviews_bundled c attempt files).2, files_bundled]
    rfl
  cases h with
  | unrendered h =>
      cases ending_of_upToPreview h with
      | atStructure => exact .inl rfl
      | atQuality => exact .inr rfl
      | atBundle | atPreview => exact .inr bundled_eq
  | rendered answer h =>
      cases ending_of_upToPreview h with
      | rendering => exact .inr bundled_eq

theorem misplaced_eq_of_result (h : Result c attempt files (.ok p)) :
    misplaced p =
      if p.quality.isSome then p.files.codeFiles.filterMap Check.fileTypeFinding? else [] := by
  unfold misplaced
  rcases quality_of_result h with hq | hq
  · rw [hq]
    rfl
  · rw [hq]
    exact Check.filter_failures_reviewQuality _ _ _

/-- What the errors of a pass say of where they come from. -/
structure Attributed (p : Pass) : Prop where
  structural : ∀ r ∈ p.stages, r.stage = .structural →
    said .structural p.errors = r.errorCount + (misplaced p).length
  quality : ∀ r ∈ p.stages, r.stage = .quality →
    said .quality p.errors + (misplaced p).length = r.errorCount
  others : ∀ r ∈ p.stages, r.stage ≠ .structural → r.stage ≠ .quality →
    said r.stage p.errors = r.errorCount
  /-- One error is misplaced for each file with markup whose type has none, if the conventions were
  checked. -/
  misplaced_eq : misplaced p =
    if p.quality.isSome then p.files.codeFiles.filterMap Check.fileTypeFinding? else []
  /-- Each stage is named as often as it counts exactly if no error is misplaced. -/
  told_iff : (∀ r ∈ p.stages, said r.stage p.errors = r.errorCount) ↔ misplaced p = []
  /-- Then no error is attributed to a stage that did not fail. -/
  unfailed : misplaced p = [] → ∀ r ∈ p.stages, r.outcome ≠ .failed → said r.stage p.errors = 0

/-- **Every error says from which stage it comes, but for those on markup in a file whose type has
none**: these are counted by the second stage and say that they come from the first. -/
theorem attributed (h : Result c attempt files (.ok p)) : Attributed p := by
  have hgated := gated_of_result h
  have hsourced := sourced_of_result h
  have hdistinct : (p.stages.map (·.stage)).Nodup := by
    rw [hgated.stages_eq]
    decide
  have counts {r : StageResult} (hr : r ∈ p.stages) :
      said r.stage p.errors + lent r.stage (misplaced p).length
        = r.errorCount + borrowed r.stage (misplaced p).length := by
    rw [hsourced r.stage, countedBy_of_mem hdistinct hr]
  have structural {r : StageResult} (hr : r ∈ p.stages) (hs : r.stage = .structural) :
      said .structural p.errors = r.errorCount + (misplaced p).length := by
    have hcounts := counts hr
    rw [hs] at hcounts
    exact hcounts
  have told (hm : misplaced p = []) {r : StageResult} (hr : r ∈ p.stages) :
      said r.stage p.errors = r.errorCount := by
    have hcounts := counts hr
    rw [hm] at hcounts
    simpa [lent, borrowed] using hcounts
  refine ⟨fun r => structural, ?_, ?_, misplaced_eq_of_result h, ⟨?_, fun hm r => told hm⟩, ?_⟩
  · intro r hr hq
    have hcounts := counts hr
    rw [hq] at hcounts
    exact hcounts
  · intro r hr hs hq
    have hcounts := counts hr
    rw [lent, if_neg hq, borrowed, if_neg hs] at hcounts
    exact hcounts
  · -- the first stage is there, and it is told right only if none is misplaced
    intro hall
    have hfirst : Stage.structural ∈ p.stages.map (·.stage) := by
      rw [hgated.stages_eq]
      decide
    obtain ⟨r, hr, hs⟩ := List.mem_map.mp hfirst
    have hright := hall r hr
    have hcounted := structural hr hs
    rw [hs] at hright
    exact List.length_eq_zero_iff.mp (by omega)
  · intro hm r hr hne
    rw [told hm hr]
    exact Nat.eq_zero_of_not_pos fun hpos => hne ((hgated.failed_iff r hr).mpr hpos)

/-- A component in a file whose type has no markup. -/
def untypedMarkup : FileSet :=
  .ofContents [("main.tsx", "import './u';\n"), ("u.js", "export function U() { return <div />; }\n")]

def scanned : Config := { analyzer := .heuristic }

/-- What a pass over such an app comes to. -/
theorem exists_run_untypedMarkup :
    ∃ p, (run scanned (browserThat false) false 0 untypedMarkup {}).1 = .ok p ∧
      p.stages.map (fun r => (r.stage, r.outcome, r.errorCount, said r.stage p.errors)) =
        [(.structural, .passed, 0, 1), (.quality, .failed, 1, 0), (.bundle, .skipped, 0, 0),
          (.preview, .skipped, 0, 0)] ∧
      (misplaced p).length = 1 := by
  have hmade : (run scanned (browserThat false) false 0 untypedMarkup {}).1.toOption.map
      (fun p => (p.stages.map fun r => (r.stage, r.outcome, r.errorCount, said r.stage p.errors),
        (misplaced p).length)) =
        some ([(.structural, .passed, 0, 1), (.quality, .failed, 1, 0), (.bundle, .skipped, 0, 0),
          (.preview, .skipped, 0, 0)], 1) := by
    decide +kernel
  cases hp : (run scanned (browserThat false) false 0 untypedMarkup {}).1 with
  | error stage => rw [hp] at hmade; cases hmade
  | ok p =>
      rw [hp] at hmade
      obtain ⟨hstages, hlength⟩ := Prod.mk.inj (Option.some.inj hmade)
      exact ⟨p, rfl, hstages, hlength⟩

/-- The only error of this app is counted by the second stage, and it names the first one, which
passed. -/
theorem misattributed_untypedMarkup :
    ∃ p, Result scanned 0 untypedMarkup (.ok p) ∧
      p.stages.map (fun r => (r.stage, r.outcome, r.errorCount, said r.stage p.errors)) =
        [(.structural, .passed, 0, 1), (.quality, .failed, 1, 0), (.bundle, .skipped, 0, 0),
          (.preview, .skipped, 0, 0)] := by
  obtain ⟨p, hp, hstages, _⟩ := exists_run_untypedMarkup
  exact ⟨p, hp ▸ result_run scanned (browserThat false) false 0 untypedMarkup {}, hstages⟩

/-- One error of this app is misplaced. -/
theorem attributed_untypedMarkup :
    ∃ p, (run scanned (browserThat false) false 0 untypedMarkup {}).1 = .ok p ∧
      (misplaced p).length = 1 ∧ Attributed p := by
  obtain ⟨p, hp, _, hlength⟩ := exists_run_untypedMarkup
  exact ⟨p, hp, hlength,
    attributed (hp ▸ result_run scanned (browserThat false) false 0 untypedMarkup {})⟩

end Pass

end AppMend
