import AppMend.Proofs.Pass.Origins
import AppMend.Proofs.Preview.Verdicts

/-!
# The preview of a pass

A pass that has a script to show records the verdict that the rendering comes to (`run_of_toRender`). A
rendering that breaks off counts as a verdict with one issue, which says what it broke off with: the preview
fails with one error, and it is the only one that says that it comes from the preview (`brokenOff_finish`).

`renderings_told` puts this together with the verdicts on the pages that are reached.
-/

namespace AppMend.Pass

open Preview (Service Judged Reaches Starts Breaks CallsOff Interleaving outset outcomeOf harnessPage)

variable {c : Config} {b : Browser} {s : Service} {off : Bool} {attempt : Nat} {files : FileSet}
  {p q : Pass} {code entry : String} {e : PreviewFailure}

/-- **A pass with a script to show records what the rendering comes to**, unless it is called off: before, or
by the page. -/
theorem run_of_toRender (hidle : s.waiting = [])
    (h : upToPreview c (fun _ => off) attempt files = .ok (.toRender p code entry)) : ∃ r s',
    run c b off attempt files s = (r, s') ∧
      (r = .ok (p.finish entry (Preview.verdict (outcomeOf s.running c.preview b code entry))) ∨
        r = .error .preview ∧ (s.calledOff = true ∨ CallsOff c.preview b code entry s.running)) := by
  obtain ⟨standing, s', hcalls, hend⟩ :=
    Preview.runCalls_outcome c.preview b code entry true hidle
  unfold run
  rw [h]
  simp only [hcalls]
  rcases hend with rfl | ⟨rfl, -, hoff⟩
  · exact ⟨_, s', rfl, .inl rfl⟩
  · exact ⟨_, s', rfl, .inr ⟨rfl, hoff⟩⟩

/-- The issue of a rendering that broke off. -/
def breakIssue (entry : String) (e : PreviewFailure) : PreviewIssue :=
  ⟨.rendererFailure, e.message, entry⟩

/-- What a pass records when the rendering breaks off. -/
structure BrokenOff (p q : Pass) (entry : String) (e : PreviewFailure) : Prop where
  preview : q.preview = some (.failed (breakIssue entry e))
  errors : q.errors = p.errors ++ [.ofPreviewIssue (breakIssue entry e)]
  /-- No other error comes from the preview. -/
  said_eq : said .preview q.errors = 1
  stages : q.stages = p.stages ++ [{ stage := .preview, outcome := .failed, errorCount := 1 }]
  /-- The preview stands there once. -/
  stages_eq : q.stages.map (·.stage) = Stage.all
  allGreen : q.allGreen = false

theorem brokenOff_finish (h : upToPreview c (fun _ => off) attempt files = .ok (.toRender p code entry))
    (e : PreviewFailure) : BrokenOff p (p.finish entry (.error e)) entry e := by
  have hending : Ending c attempt files (.toRender p code entry) := ending_of_upToPreview h
  have hstages : ((p.finish entry (.error e)).stages).map (·.stage) = Stage.all := by
    cases hending with
    | rendering => exact (ran_finish entry (.error e)).stages_eq
  have hdistinct : (((p.finish entry (.error e)).stages).map (·.stage)).Nodup := by
    rw [hstages]
    decide
  have hmem : (⟨.preview, .failed, 1, 0⟩ : StageResult) ∈ (p.finish entry (.error e)).stages :=
    List.mem_append_right _ List.mem_cons_self
  refine ⟨rfl, rfl, ?_, rfl, hstages, ?_⟩
  · -- the stage counts one error, and none is misplaced there
    have hsourced := hending.sourced_finish (.error e) .preview
    rw [countedBy_of_mem hdistinct hmem] at hsourced
    exact hsourced
  · exact allGreen_of_hasFailed (List.any_eq_true.mpr ⟨_, hmem, rfl⟩)

/-- **What is told of a rendering.** If it reaches its page, it comes to a verdict that tells all that the
page reported and what it shows, alone and among other calls. If it breaks off, a pass records one error for
that and a preview that failed, unless it is called off. -/
theorem renderings_told (c : Config) (b : Browser) (code entry : String) (hidle : s.waiting = []) :
    let page := b.page (harnessPage c.preview code entry)
    (Reaches c.preview b s.running page → ∃ v s',
      s.runCalls c.preview b [{ job := .render code entry }] = ([.ended (.ok (some v))], s') ∧
        Judged c.preview entry page v) ∧
    (Reaches c.preview b false page → ∀ jobs x k outcome,
      Interleaving c.preview (· = b) (outset jobs) x → k ∈ x.1 → k.job = .render code entry →
        k.standing = .ended outcome → ∃ v, outcome = .ok (some v) ∧ Judged c.preview entry page v) ∧
    ∀ e, Breaks c.preview b s.running page e → ∀ off attempt files p,
      upToPreview c (fun _ => off) attempt files = .ok (.toRender p code entry) → ∃ r s',
        run c b off attempt files s = (r, s') ∧
          ((∃ q, r = .ok q ∧ BrokenOff p q entry e) ∨
            r = .error .preview ∧ (s.calledOff = true ∨ CallsOff c.preview b code entry s.running)) := by
  refine ⟨fun hreaches => ?_, fun hreaches jobs x k outcome hrun hk hjob hend => ?_,
    fun e hbreaks off attempt files p hp => ?_⟩
  · obtain ⟨v, hv, hjudged⟩ := Preview.outcomeOf_of_reaches hreaches
    obtain ⟨standing, s', hcalls, hend⟩ :=
      Preview.runCalls_outcome c.preview b code entry false hidle
    refine ⟨v, s', ?_, hjudged⟩
    rcases hend with rfl | ⟨_, hheeds, _⟩
    · rw [hcalls, hv]
    · cases hheeds
  · obtain ⟨v, hv, hjudged⟩ := Preview.outcomeOf_of_reaches hreaches
    have hlaunches := hreaches.started.launches
    have hstart : (Service.start c.preview b).2 = .ok () := hlaunches.resolve_left Bool.false_ne_true
    refine ⟨v, ?_, hjudged⟩
    rw [Preview.outcome_of_interleaving hstart hrun hk hjob hend, ← hv,
      Preview.outcomeOf_of_launches hlaunches]
  · obtain ⟨r, s', hrun, hend⟩ := run_of_toRender (b := b) hidle hp
    refine ⟨r, s', hrun, hend.imp_left fun hr => ⟨_, hr, ?_⟩⟩
    rw [Preview.outcomeOf_of_breaks hbreaks]
    exact brokenOff_finish hp e

/-- A browser whose pages report and show faults, if there is no reason that none can be opened. -/
def faultyBrowser (openError : Option String) : Browser where
  openError := openError
  page _ :=
    { events := [.console .error "e", .console .warning "w", .exception "x",
        .requestFailed "https://unpkg.com/r.js" "f", .requestFailed "https://a.test/r.js" "f"]
      dom := .ok { text := "Something went wrong" } }

/-- Two renderings that run together. -/
def twoRenderings : List Preview.Call :=
  [{ job := .render "1;" "App.tsx" }, { job := .render "2;" "App.tsx" }]

def hasEnded : Preview.Standing → Bool
  | .ended _ => true
  | .live _ | .givenUp => false

theorem hasEnded_iff {standing : Preview.Standing} :
    hasEnded standing = true ↔ ∃ outcome, standing = .ended outcome := by
  cases standing <;> simp [hasEnded]

/-- Whether a pass gets to its preview with a script to show. -/
def getsToRender : Except Stage Progress → Bool
  | .ok (.toRender ..) => true
  | .ok (.over _) | .error _ => false

theorem getsToRender_iff {r : Except Stage Progress} :
    getsToRender r = true ↔ ∃ p code entry, r = .ok (.toRender p code entry) := by
  rcases r with _ | (_ | _) <;> simp [getsToRender]

/-- Faults are told of a page alone and beside another one, and that no page can be opened. -/
theorem renderings_told_faulty :
    let b := faultyBrowser none
    let page := b.page (harnessPage comprehensive.preview "1;" "App.tsx")
    let x := (outset twoRenderings).2.run comprehensive.preview b 20 0 (outset twoRenderings).1
    (∃ v s', Service.runCalls comprehensive.preview b [{ job := .render "1;" "App.tsx" }] {} =
      ([.ended (.ok (some v))], s') ∧ Judged comprehensive.preview "App.tsx" page v) ∧
    (∃ k ∈ x.1, ∃ v, k.standing = .ended (.ok (some v)) ∧
      Judged comprehensive.preview "App.tsx" page v) ∧
    ∃ p q entry s', run comprehensive (faultyBrowser (some "no tab")) false 0 faultAside {} = (.ok q, s') ∧
      BrokenOff p q entry (.page "no tab") := by
  intro b page x
  have hloaded (e : String) (h : page.loading = .failed e) :
      Preview.Exceeds page comprehensive.preview.navigationTimeoutMs := by cases h
  have hstarts : Starts comprehensive.preview b false := .inr ⟨rfl, by decide⟩
  have hreaches : Reaches comprehensive.preview b false page := ⟨hstarts, rfl, rfl, hloaded⟩
  obtain ⟨halone, htogether, -⟩ :=
    renderings_told (s := {}) comprehensive b "1;" "App.tsx" (by decide)
  refine ⟨halone hreaches, ?_, ?_⟩
  · have hended : x.1.any (fun k => decide (k.job = .render "1;" "App.tsx") && hasEnded k.standing) =
        true := by decide +kernel
    obtain ⟨k, hk, hended⟩ := List.any_eq_true.mp hended
    obtain ⟨hjob, hended⟩ := Bool.and_eq_true_iff.mp hended
    obtain ⟨outcome, hend⟩ := hasEnded_iff.mp hended
    have hrun : Interleaving comprehensive.preview (· = b) (outset twoRenderings) x :=
      Preview.interleaving_run_outset twoRenderings 20 rfl
    obtain ⟨v, rfl, hjudged⟩ :=
      htogether hreaches _ _ k outcome hrun hk (of_decide_eq_true hjob) hend
    exact ⟨k, hk, v, hend, hjudged⟩
  · have hrenders : getsToRender (upToPreview comprehensive (fun _ => false) 0 faultAside) = true := by
      decide +kernel
    obtain ⟨p, code, entry, hp⟩ := getsToRender_iff.mp hrenders
    have hbreaks : Breaks comprehensive.preview (faultyBrowser (some "no tab")) false
        ((faultyBrowser (some "no tab")).page (harnessPage comprehensive.preview code entry))
        (.page "no tab") := .unopened (.inr ⟨rfl, by decide⟩) rfl rfl
    obtain ⟨-, -, hbroken⟩ :=
      renderings_told (s := {}) comprehensive (faultyBrowser (some "no tab")) code entry (by decide)
    obtain ⟨r, s', hrun, ⟨q, rfl, hq⟩ | ⟨-, hoff | hoff⟩⟩ := hbroken _ hbreaks false 0 faultAside p hp
    · exact ⟨p, q, entry, s', hrun, hq⟩
    · cases hoff
    · cases hoff.2.2.1

end AppMend.Pass
