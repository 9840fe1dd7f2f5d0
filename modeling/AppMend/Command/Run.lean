import AppMend.Agent.Exchange
import AppMend.Command.Arguments
import AppMend.Config.Document
import AppMend.Heal.Schedule
import AppMend.Load.Project
import AppMend.Pass

/-!
# Commands

What a command does. It loads its settings, then its files, and comes to a report: a document, and
whether what it tells is good. The settings are those of the document, then what the environment says,
then what the arguments say.
-/

namespace AppMend

/-- What a command meets from outside. -/
structure CommandWorld where
  tree : Tree
  environment : Environment
  browser : Config → Browser
  exchange : Exchange
  /-- Whether the run was called off before it began. -/
  calledOff : Bool := false
  /-- What a session is called that was given no name. -/
  sessionName : String := "session"

/-- What a command came to. -/
structure Report where
  success : Bool
  body : Json.Value

/-- Why a command came to nothing. -/
inductive CommandFault where
  | configUnreadable (why : PathFault)
  /-- The document holds no settings. -/
  | configMalformed (path : String)
  | load (why : LoadFault)
  | calledOff (during : String)
  | heal (why : HealFailure)

namespace CommandFault

/-- What failed, followed by the causes behind it. -/
def chain : CommandFault → List String
  | configUnreadable why =>
    ["Failed to load pipeline configuration", "IO error: " ++ why.message, why.message]
  | configMalformed path =>
    ["Failed to load pipeline configuration", s!"Configuration error in {path}: TOML parse error"]
  | load why => why.message :: why.cause?.toList
  | calledOff during => ["Pipeline cancelled during " ++ during]
  | heal why => [why.message]

def message (f : CommandFault) : String := ": ".intercalate f.chain

end CommandFault

namespace Arguments

/-- The settings that a document gives. -/
def readConfig (t : Tree) (path : String) : Except CommandFault Config := do
  let text ← (t.readText path).mapError .configUnreadable
  match Config.read? text with
  | some c => pure c
  | none => .error (.configMalformed path)

/-- The settings that the arguments lead to. -/
def resolve (a : Arguments) (t : Tree) (environment : Environment) : Except CommandFault Config := do
  let c ← match a.config with
    | some path => readConfig t path
    | none => pure {}
  let c := c.withEnvironment environment
  let c := { c with entry := a.entry.or c.entry }
  match a.command with
  | .heal _ _ (some n) => pure { c with heal.maxAttempts := n }
  | _ => pure c

end Arguments

namespace Report

/-- Repairs the files and checks them against the conventions. -/
def ofValidation (c : Config) (files : FileSet) : Report :=
  let structural := Check.reviewSyntax c.analyzer files
  let quality := Check.reviewQuality c.analyzer c.rules (files.overlay structural.fixedFiles)
  let isValid := structural.isValid && quality.isValid
  ⟨isValid, .object [("isValid", isValid), ("syntax", structural.toJson), ("quality", quality.toJson)]⟩

/-- Bundles the files. -/
def ofBundle (c : Config) (files : FileSet) : Report :=
  match c.bundle.bundle files c.entry with
  | .ok artifact => ⟨true, artifact.toJson⟩
  | .error failure => ⟨false, .object [("error", failure.report.toJson)]⟩

/-- Takes the files through one pass. -/
def ofPass (w : CommandWorld) (c : Config) (files : FileSet) : Except CommandFault Report :=
  match (Pass.run c (w.browser c) w.calledOff 0 files {}).1 with
  | .ok p => .ok ⟨p.allGreen, p.toJson⟩
  | .error stage => .error (.calledOff stage.name)

/-- What the generator does with a request. -/
def replyBy (w : CommandWorld) (r : RegenerationRequest) : Reply where
  answer := ((AgentConfig.ofEnvironment w.environment).complete w.exchange r).map (·.files)

/-- Heals the files in a session. -/
def ofHeal (w : CommandWorld) (c : Config) (files : FileSet) (prompt session : String) :
    Except CommandFault Report :=
  let world : HealWorld :=
    { config := c, browser := w.browser c, prompt, files, reply := fun _ r => replyBy w r }
  match (Heals.runBatch world { stopped := w.calledOff } [session]).1 with
  | [some (.ok s)] => .ok ⟨s.isValid, s.toJson⟩
  | [some (.error e)] => .error (.heal e)
  | _ => .error (.calledOff "regeneration")

end Report

/-- Carries out what a command line says. -/
def Arguments.run (a : Arguments) (w : CommandWorld) : Except CommandFault Report := do
  let c ← a.resolve w.tree w.environment
  let files ← (FileSet.load w.tree a.input).mapError .load
  match a.command with
  | .validate => pure (.ofValidation c files)
  | .bundle => pure (.ofBundle c files)
  | .preview => Report.ofPass w c files
  | .heal prompt session _ => Report.ofHeal w c files prompt (session.getD w.sessionName)

end AppMend
