import AppMend.Config

/-!
# Settings from the environment

A variable of the environment can set a value in place of the one before. A variable whose word says
nothing to its setting is passed over.
-/

namespace AppMend

/-- The value of each variable that is set. -/
abbrev Environment := String → Option String

/-- The number below a bound that a word writes in decimal digits, with or without a plus. -/
def readNat? (bound : Nat) (word : String) : Option Nat :=
  let digits := match word.toList with
    | '+' :: s => s
    | s => s
  if digits.isEmpty ∨ !digits.all Char.isDigit then none
  else
    let n := digits.foldl (fun n c => n * 10 + (c.toNat - 48)) 0
    if n < bound then some n else none

namespace Config

/-- The number that a variable sets, or the one before. -/
def numberFrom (env : Environment) (name : String) (bound before : Nat) : Nat :=
  ((env name).bind (readNat? bound)).getD before

/-- The choice that a variable names, or the one before. -/
def choiceFrom (env : Environment) (name : String) (parse : String → Except UnknownChoice α)
    (before : α) : α :=
  ((env name).bind fun word => (parse word).toOption).getD before

/-- Whether a word allows something. -/
def isYes (word : String) : Bool := ["1", "true", "yes"].contains word

/-- The settings with what the environment says. -/
def withEnvironment (env : Environment) (c : Config) : Config :=
  { c with
    analyzer := choiceFrom env "PREVIEW_ANALYZER" Analyzer.parse c.analyzer
    mode := choiceFrom env "PREVIEW_MODE" RunMode.parse c.mode
    entry := (env "PREVIEW_ENTRY").or c.entry
    bundle.strategy := choiceFrom env "PREVIEW_BUNDLE_STRATEGY" BundleStrategy.parse c.bundle.strategy
    preview.navigationTimeoutMs :=
      numberFrom env "PREVIEW_NAVIGATION_TIMEOUT_MS" (Nat.pow 2 64) c.preview.navigationTimeoutMs
    preview.settleMs := numberFrom env "PREVIEW_SETTLE_MS" (Nat.pow 2 64) c.preview.settleMs
    preview.chromeExecutable := (env "PREVIEW_CHROME").or c.preview.chromeExecutable
    preview.noSandbox := ((env "PREVIEW_NO_SANDBOX").map isYes).getD c.preview.noSandbox
    heal.maxAttempts := numberFrom env "PREVIEW_MAX_ATTEMPTS" (Nat.pow 2 32) c.heal.maxAttempts
    heal.regenerationTimeoutMs :=
      numberFrom env "PREVIEW_REGENERATION_TIMEOUT_MS" (Nat.pow 2 64) c.heal.regenerationTimeoutMs }

end Config

end AppMend
