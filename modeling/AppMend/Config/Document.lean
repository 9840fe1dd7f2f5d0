import AppMend.Config
import AppMend.Toml.Reader

/-!
# Settings from a document

What a settings document says of each setting; what it does not mention keeps its default, and what it
mentions beyond that is passed over. A group of settings is a table, or a list that gives them in their
order. Where a table is asked for, a date or a time is one with a single key of its own.
-/

namespace AppMend.Config

open Toml (Value)

/-- A group of settings: the value of each, by its place in the group and its name. -/
abbrev Group := Nat → String → Option Value

/-- Reads a value of a type. -/
abbrev Decode (α : Type) := Value → Option α

/-- The key of a date or a time as a table. -/
def timeKey : String := "$__toml_private_datetime"

def group : Decode Group
  | .table _ fs => some fun _ name => Toml.Fields.get? fs name
  | .list vs => some fun i _ => vs[i]?
  | .rows ts => some fun i _ => (ts.reverse[i]?).map (Value.table .header)
  | .time s => some fun _ name => if name == timeKey then some (.text s) else none
  | _ => none

def string : Decode String
  | .text s => some s
  | _ => none

def bool : Decode Bool
  | .bool b => some b
  | _ => none

/-- A number below a bound. -/
def number (bound : Nat) : Decode Nat
  | .int n => if 0 ≤ n ∧ n < bound then some n.toNat else none
  | _ => none

def list (decode : Decode α) : Decode (List α)
  | .list vs => vs.mapM decode
  | .rows ts => ts.reverse.mapM fun fs => decode (.table .header fs)
  | _ => none

/-- Texts by name. -/
def texts : Decode (Table String)
  | .table _ fs => (fs.mapM fun f => (string f.2).map fun s => (f.1, s)).map Table.ofList
  | .time s => some (Table.ofList [(timeKey, s)])
  | _ => none

/-- Whether a value holds nothing. -/
def isEmpty : Value → Bool
  | .table _ [] | .list [] | .rows [] => true
  | _ => false

/-- A choice by its name, or by a table in which that is the only key and holds nothing. -/
def choice (ofName? : String → Option α) : Decode α
  | .text s => ofName? s
  | .table _ [(name, v)] => if isEmpty v then ofName? name else none
  | _ => none

/-- A setting of a group, or its default. -/
def setting (g : Group) (i : Nat) (name : String) (decode : Decode α) (default : α) : Option α :=
  match g i name with
  | none => some default
  | some v => decode v

/-- A setting that has no value by default. -/
def optionalSetting (g : Group) (i : Nat) (name : String) (decode : Decode α) : Option (Option α) :=
  setting g i name (fun v => (decode v).map some) none

def sharedUtility : Decode SharedUtility := fun v => do
  let g ← group v
  pure ⟨← (g 0 "name").bind string, ← (g 1 "module").bind string⟩

def rulesOf : Decode Rules := fun v => do
  let g ← group v
  let d : Rules := {}
  pure
    { placeholderMarkers := ← setting g 0 "placeholder_markers" (list string) d.placeholderMarkers
      sharedUtilities := ← setting g 1 "shared_utilities" (list sharedUtility) d.sharedUtilities
      designSystemDir := ← setting g 2 "design_system_dir" string d.designSystemDir
      designSystemAlias := ← setting g 3 "design_system_alias" string d.designSystemAlias
      schemaLibrary := ← setting g 4 "schema_library" string d.schemaLibrary
      schemaResolver := ← setting g 5 "schema_resolver" string d.schemaResolver }

def bundleOf : Decode BundleConfig := fun v => do
  let g ← group v
  let d : BundleConfig := {}
  pure
    { strategy := ← setting g 0 "strategy" (choice BundleStrategy.ofName?) d.strategy
      aliases := ← setting g 1 "aliases" texts d.aliases
      entryCandidates := ← setting g 2 "entry_candidates" (list string) d.entryCandidates }

/-- A number of milliseconds. -/
def duration : Decode Nat := number (Nat.pow 2 64)

def previewOf : Decode PreviewConfig := fun v => do
  let g ← group v
  let d : PreviewConfig := {}
  pure
    { reactUrl := ← setting g 0 "react_url" string d.reactUrl
      reactDomUrl := ← setting g 1 "react_dom_url" string d.reactDomUrl
      cdnHosts := ← setting g 2 "cdn_hosts" (list string) d.cdnHosts
      navigationTimeoutMs := ← setting g 3 "navigation_timeout_ms" duration d.navigationTimeoutMs
      settleMs := ← setting g 4 "settle_ms" duration d.settleMs
      launchTimeoutMs := ← setting g 5 "launch_timeout_ms" duration d.launchTimeoutMs
      failureMarkers := ← setting g 6 "failure_markers" (list string) d.failureMarkers
      allowedPhrases := ← setting g 7 "allowed_phrases" (list string) d.allowedPhrases
      chromeExecutable := ← optionalSetting g 8 "chrome_executable" string
      noSandbox := ← setting g 9 "no_sandbox" bool d.noSandbox }

def healOf : Decode HealConfig := fun v => do
  let g ← group v
  let d : HealConfig := {}
  pure
    { maxAttempts := ← setting g 0 "max_attempts" (number (Nat.pow 2 32)) d.maxAttempts
      regenerationTimeoutMs := ← setting g 1 "regeneration_timeout_ms" duration d.regenerationTimeoutMs }

/-- The settings of a document. -/
def ofDocument (fs : Toml.Fields) : Option Config := do
  let g ← group (.table .header fs)
  let d : Config := {}
  pure
    { analyzer := ← setting g 0 "analyzer" (choice Analyzer.ofName?) d.analyzer
      mode := ← setting g 1 "mode" (choice RunMode.ofName?) d.mode
      entry := ← optionalSetting g 2 "entry" string
      rules := ← setting g 3 "quality" rulesOf d.rules
      bundle := ← setting g 4 "bundle" bundleOf d.bundle
      preview := ← setting g 5 "preview" previewOf d.preview
      heal := ← setting g 6 "heal" healOf d.heal }

/-- The settings that a text writes. -/
def read? (s : String) : Option Config := (Toml.read? s.toList).bind ofDocument

end AppMend.Config
