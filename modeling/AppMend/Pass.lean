import AppMend.Bundle.Bundler
import AppMend.Config
import AppMend.Diagnosis
import AppMend.Preview.Page
import AppMend.Preview.Schedule

/-!
# Passes

A pass takes a set of files through all stages. The repairs of the first stage are kept for the later
ones. A stage is recorded with its outcome and its counts, and its errors are added to those of the
pass. When stages stop, because one failed or because there is nothing to render, the rest is recorded
as skipped.

A pass up to its preview is a plain function of the files. The verdict of the preview is put in
afterwards, so a pass can wait for a browser in between.

`Pass.run` runs one pass to its end, with a browser for the preview.
-/

namespace AppMend

inductive StageOutcome where
  | passed
  | failed
  /-- It was not run. -/
  | skipped
  /-- It passed, but there is something to tell. -/
  | warned
deriving DecidableEq, Inhabited

namespace StageOutcome

def name : StageOutcome → String
  | passed => "passed"
  | failed => "failed"
  | skipped => "skipped"
  | warned => "warning"

/-- The word for the outcome in an overview. -/
def label : StageOutcome → String
  | passed => "PASS"
  | failed => "FAIL"
  | skipped => "SKIP"
  | warned => "WARN"

def isPassed : StageOutcome → Bool
  | passed | warned => true
  | failed | skipped => false

/-- The outcome of a stage that was run. -/
def of (isValid isQuiet : Bool) : StageOutcome :=
  if !isValid then failed else if isQuiet then passed else warned

end StageOutcome

structure StageResult where
  stage : Stage
  outcome : StageOutcome
  errorCount : Nat := 0
  warningCount : Nat := 0
deriving DecidableEq, Inhabited

def StageResult.toJson (r : StageResult) : Json.Value :=
  .object [("stage", r.stage.name), ("outcome", r.outcome.name), ("errorCount", .ofNat r.errorCount),
    ("warningCount", .ofNat r.warningCount)]

structure Pass where
  /-- The number of the pass, from zero. -/
  attempt : Nat
  stages : List StageResult := []
  entryPoint : Option String := none
  structural : Option Review := none
  quality : Option Review := none
  bundle : Option BundleArtifact := none
  bundleError : Option BundleError := none
  preview : Option Verdict := none
  /-- What failed the stages. -/
  errors : List DiagnosticError := []
  /-- The files with all repairs. -/
  files : FileSet
deriving DecidableEq, Inhabited

namespace Pass

def hasFailed (p : Pass) : Bool := p.stages.any (·.outcome == .failed)

/-- Whether nothing failed. -/
def allGreen (p : Pass) : Bool := !p.hasFailed && p.errors.isEmpty

def stage? (p : Pass) (s : Stage) : Option StageResult := p.stages.find? (·.stage == s)

def firstFailure? (p : Pass) : Option Stage :=
  (p.stages.find? (·.outcome == .failed)).map (·.stage)

/-- Adds the result of a stage with its errors. -/
def record (p : Pass) (r : StageResult) (errors : List DiagnosticError) : Pass :=
  { p with stages := p.stages ++ [r], errors := p.errors ++ errors }

/-- Records a stage and those after it as skipped. -/
def skipFrom (p : Pass) (s : Stage) : Pass :=
  { p with stages := p.stages ++ s.andLater.map fun t => { stage := t, outcome := .skipped } }

/-! ## The stages -/

/-- Repairs the files and checks their structure. -/
def checkStructure (c : Config) (p : Pass) : Pass :=
  let r := Check.reviewSyntax c.analyzer p.files
  { p.record
      { stage := .structural
        outcome := .of r.isValid r.findings.isEmpty
        errorCount := r.failureCount
        warningCount := r.findings.length - r.failureCount }
      (r.failures.map .ofFinding) with
    structural := some r
    files := p.files.overlay r.fixedFiles }

/-- Checks the files against the conventions. -/
def checkQuality (c : Config) (p : Pass) : Pass :=
  let r := Check.reviewQuality c.analyzer c.rules p.files
  { p.record
      { stage := .quality
        outcome := .of r.isValid r.findings.isEmpty
        errorCount := r.failureCount
        warningCount := r.warningCount }
      (r.failures.map .ofFinding) with
    quality := some r }

/-- Bundles the files. -/
def makeBundle (c : Config) (p : Pass) : Pass :=
  let p := { p with entryPoint := (c.bundle.detectEntry p.files c.entry).toOption }
  match c.bundle.bundle p.files c.entry with
  | .ok artifact => { p.record { stage := .bundle, outcome := .passed } [] with bundle := some artifact }
  | .error failure =>
    let e := failure.report
    { p.record { stage := .bundle, outcome := .failed, errorCount := 1 } [.ofBundleError e] with
      bundleError := some e }

/-- The script to render and its entry, if the bundle is a script. -/
def script? (p : Pass) : Option (String × String) :=
  p.bundle.bind fun b => b.code?.map fun code => (code, b.entryPoint)

/-- The verdict on an app that a browser rendered, or could not render. -/
def verdictOf (entry : String) : Except PreviewFailure Verdict → Verdict
  | .ok v => v
  | .error e => .failed ⟨.rendererFailure, e.message, entry⟩

/-- Records what the preview showed. -/
def recordPreview (p : Pass) (v : Verdict) : Pass :=
  { p.record
      { stage := .preview
        outcome := .of v.isValid v.warnings.isEmpty
        errorCount := v.errors.length
        warningCount := v.warnings.length }
      (v.errors.map .ofPreviewIssue) with
    preview := some v }

/-! ## A pass as a whole -/

/-- How far a pass got without a browser. -/
inductive Progress where
  /-- It is over. -/
  | over (p : Pass)
  /-- A script is to be rendered. -/
  | toRender (p : Pass) (code entry : String)
deriving DecidableEq, Inhabited

/-- Whether a pass stops here. -/
def stops (c : Config) (p : Pass) : Bool := c.mode == .failFast && p.hasFailed

/-- A pass up to its preview; the cause of an error is the stage before which the run was called
off. -/
def upToPreview (c : Config) (calledOff : Stage → Bool) (attempt : Nat) (files : FileSet) :
    Except Stage Progress :=
  if calledOff .structural then .error .structural else
  let p := checkStructure c { attempt, files }
  if p.stops c then .ok (.over (p.skipFrom .quality)) else
  if calledOff .quality then .error .quality else
  let p := checkQuality c p
  if p.stops c then .ok (.over (p.skipFrom .bundle)) else
  if calledOff .bundle then .error .bundle else
  let p := makeBundle c p
  if p.bundle.isNone then .ok (.over (p.skipFrom .preview)) else
  if calledOff .preview then .error .preview else
  match p.script? with
  | some (code, entry) => .ok (.toRender p code entry)
  | none => .ok (.over (p.skipFrom .preview))

/-- A pass with the answer of the browser. -/
def finish (p : Pass) (entry : String) (r : Except PreviewFailure Verdict) : Pass :=
  p.recordPreview (verdictOf entry r)

/-- The diagnosis of a pass that failed. -/
def diagnosis? (p : Pass) : Option Diagnosis :=
  if p.allGreen then none else Diagnosis.make? p.errors p.files p.entryPoint p.attempt

def toJson (p : Pass) : Json.Value :=
  .objectOf [("attempt", some (.ofNat p.attempt)),
    ("stages", some (.arr (p.stages.map StageResult.toJson))),
    ("allGreen", some p.allGreen), ("entryPoint", p.entryPoint.map .str),
    ("syntax", p.structural.map Review.toJson), ("quality", p.quality.map Review.toJson),
    ("bundle", p.bundle.map BundleArtifact.toJson), ("bundleError", p.bundleError.map BundleError.toJson),
    ("preview", p.preview.map Verdict.toJson),
    ("errors", some (.arr (p.errors.map DiagnosticError.toJson)))]

end Pass

/-! ## A pass with its preview -/

open Preview (Service)

/-- Runs a pass, which may have been called off before; the cause of an error is the stage at which it
was called off. -/
def Pass.run (c : Config) (b : Browser) (calledOff : Bool) (attempt : Nat) (files : FileSet)
    (s : Service) : Except Stage Pass × Service :=
  match upToPreview c (fun _ => calledOff) attempt files with
  | .error stage => (.error stage, s)
  | .ok (.over p) => (.ok p, s)
  | .ok (.toRender p code entry) =>
    match s.runCalls c.preview b [{ job := .render code entry, heedsCallOff := true }] with
    | ([.ended outcome], s) =>
      (.ok (p.finish entry (Preview.verdict outcome)), s)
    | (_, s) => (.error .preview, s)

end AppMend
