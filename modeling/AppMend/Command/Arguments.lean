import AppMend.Config.Environment
import AppMend.Text.Search

/-!
# Arguments

The words of a command line say what is to be done, with which settings, on which input. Words before
the name of a command may give the settings that every command has; the words after it are read by the
arguments of that command. A setting may be given once on either side, and the one after the name
counts.

A setting is taken in only when the next word shows that its value is complete. So of two faults the one
that is seen first counts, not the one that is written first.
-/

namespace AppMend

/-- What is to be done. -/
inductive Command where
  | validate
  | bundle
  | preview
  | heal (prompt : String) (session : Option String) (maxAttempts : Option Nat)
deriving DecidableEq, Inhabited

namespace Command

def name : Command → String
  | validate => "validate"
  | bundle => "bundle"
  | preview => "preview"
  | heal .. => "heal"

end Command

/-- What a command line says. -/
structure Arguments where
  command : Command
  /-- The path of the files. -/
  input : String
  /-- The path of a settings document. -/
  config : Option String := none
  /-- The entry to prefer. -/
  entry : Option String := none
deriving DecidableEq, Inhabited

/-- Why a command line gives no arguments. -/
inductive UsageFault where
  | helpAsked
  | versionAsked
  /-- There is nothing, so help is in place. -/
  | nothingAsked
  | missingCommand
  | unknownCommand
  | unknownArgument
  | missingArgument
  /-- A setting has no value, or an empty one that may not be empty. -/
  | missingValue
  /-- What is no setting was given a value. -/
  | needlessValue
  | notNumber
  | repeated
deriving DecidableEq, Inhabited

/-- The exit code of a program that ends with a usage fault. -/
def UsageFault.exitCode : UsageFault → Nat
  | helpAsked | versionAsked => 0
  | _ => 2

namespace Arguments

/-- What a value is given to. -/
inductive Slot where
  | config
  | entry
  | prompt
  | session
  | maxAttempts
  | input
deriving DecidableEq, Inhabited

/-- The names of the commands; the last one tells about the others. -/
def commandNames : List String := ["validate", "bundle", "preview", "heal", "help"]

/-- Where words stand. -/
inductive Level where
  /-- Before the name of a command. -/
  | top
  | command (name : String)
deriving DecidableEq

namespace Level

/-- The settings that may be given there, by their names. -/
def slots : Level → List (String × Slot)
  | top => [("config", .config), ("entry", .entry)]
  | command name => [("config", .config), ("entry", .entry)] ++
      (if name = "heal" then
        [("prompt", .prompt), ("session", .session), ("max-attempts", .maxAttempts)] else [])

/-- What a long flag asks for. -/
def asked? (l : Level) (name : String) : Option UsageFault :=
  if name = "help" then some .helpAsked
  else if name = "version" ∧ l = .top then some .versionAsked
  else none

/-- What a flag of one letter asks for. -/
def letterAsked? (l : Level) (c : Char) : Option UsageFault :=
  if c = 'h' then some .helpAsked
  else if c = 'V' ∧ l = .top then some .versionAsked
  else none

end Level

/-! ## Values -/

/-- A number of attempts; only zero may have a minus. -/
def attempts? (s : String) : Option Nat :=
  match s.toList with
  | '-' :: digits => if digits.isEmpty ∨ digits.any (· != '0') then none else some 0
  | _ => readNat? (Nat.pow 2 32) s

/-- What is wrong with a value; a path may not be empty. -/
def valueFault? (slot : Slot) (value : String) : Option UsageFault :=
  match slot with
  | .config | .input => if value.isEmpty then some .missingValue else none
  | .maxAttempts => if (attempts? value).isNone then some .notNumber else none
  | .entry | .prompt | .session => none

/-! ## Words -/

/-- What the words told so far. -/
structure Found where
  values : List (Slot × String) := []
  /-- What is not taken in yet, and its value if it was seen. -/
  pending : Option (Slot × Option String) := none
  /-- Whether all that follows are values by position. -/
  onlyValues : Bool := false
deriving Inhabited

namespace Found

def get? (f : Found) (slot : Slot) : Option String := (f.values.find? (·.1 == slot)).map (·.2)

/-- Takes in what is pending. -/
def settle (f : Found) : Except UsageFault Found :=
  match f.pending with
  | none => .ok f
  | some (_, none) => .error .missingValue
  | some (slot, some value) =>
    if (f.get? slot).isSome then .error .repeated
    else
      match valueFault? slot value with
      | some e => .error e
      | none => .ok { f with values := f.values ++ [(slot, value)], pending := none }

/-- The setting that waits for its value. -/
def awaiting? (f : Found) : Option Slot :=
  match f.pending with
  | some (slot, none) => some slot
  | _ => none

/-- Whether the value by position was seen. -/
def hasInput (f : Found) : Bool :=
  (f.get? .input).isSome || (f.pending.map (·.1)) == some .input

/-- Takes a flag, which may have its value attached. -/
def takeFlag (l : Level) (f : Found) (name : String) (value : Option String) :
    Except UsageFault Found :=
  match l.asked? name, value with
  | some e, none => do
    let _ ← f.settle
    .error e
  | some _, some _ => .error .needlessValue
  | none, value =>
    match l.slots.find? (·.1 == name) with
    | none => .error .unknownArgument
    | some (_, slot) => do
      let f ← f.settle
      let f := { f with pending := some (slot, value) }
      if value.isSome then f.settle else pure f

/-- Takes a flag of one letter; none of them is a setting. -/
def takeLetter (l : Level) (f : Found) (letter : Char) : Except UsageFault Found :=
  match l.letterAsked? letter with
  | some e => do
    let _ ← f.settle
    .error e
  | none => .error .unknownArgument

/-- Takes a value by position. -/
def takeValue (l : Level) (f : Found) (word : String) : Except UsageFault Found :=
  match l with
  | .top =>
    if f.onlyValues ∧ commandNames.contains word then .error .unknownArgument
    else .error .unknownCommand
  | .command _ =>
    if f.hasInput then .error .unknownArgument
    else do
      let f ← f.settle
      pure { f with pending := some (.input, some word) }

/-- A long flag with what stands behind its equals sign. -/
def splitFlag (s : List Char) : String × Option String :=
  match Text.cut? ['='] s with
  | some (name, value) => (String.ofList name, some (String.ofList value))
  | none => (String.ofList s, none)

/-- Takes one word. -/
def take (l : Level) (f : Found) (word : String) : Except UsageFault Found :=
  if f.onlyValues then f.takeValue l word
  else
    match word.toList with
    | ['-', '-'] => .ok { f with onlyValues := true }
    | '-' :: '-' :: s =>
      let (name, value) := splitFlag s
      f.takeFlag l name value
    | '-' :: c :: _ => f.takeLetter l c
    | _ =>
      match f.awaiting? with
      | some slot => .ok { f with pending := some (slot, some word) }
      | none => f.takeValue l word

/-- Takes words up to the name of a command, which is told with the words after it. -/
def takeUntilCommand (f : Found) :
    List String → Except UsageFault (Found × Option (String × List String))
  | [] => .ok (f, none)
  | word :: words =>
    if !f.onlyValues ∧ f.awaiting?.isNone ∧ commandNames.contains word then
      .ok (f, some (word, words))
    else do
      let f ← f.take .top word
      takeUntilCommand f words

end Found

/-! ## Reading -/

/-- The command of a name with what was found for it. -/
def commandOf (name : String) (f : Found) : Except UsageFault Command :=
  match name with
  | "validate" => .ok .validate
  | "bundle" => .ok .bundle
  | "preview" => .ok .preview
  | _ =>
    match f.get? .prompt with
    | none => .error .missingArgument
    | some prompt => .ok (.heal prompt (f.get? .session) ((f.get? .maxAttempts).bind attempts?))

/-- What is told about the commands that words name. -/
def help (words : List String) : UsageFault :=
  match words with
  | [] => .helpAsked
  | [word] => if commandNames.contains word then .helpAsked else .unknownCommand
  | _ => .unknownCommand

/-- The arguments that the words after the name of a command give, before those of the top. -/
def ofCommand (name : String) (words : List String) : Except UsageFault Arguments := do
  let f ← words.foldlM (Found.take (.command name)) {}
  let f ← f.settle
  match f.get? .input with
  | none => .error .missingArgument
  | some input =>
    pure { command := ← commandOf name f, input, config := f.get? .config, entry := f.get? .entry }

/-- The arguments that the words of a command line give. -/
def parse (words : List String) : Except UsageFault Arguments := do
  let (top, command?) ← Found.takeUntilCommand {} words
  match command? with
  | none =>
    let top ← top.settle
    .error (if top.values.isEmpty then .nothingAsked else .missingCommand)
  | some ("help", words) => .error (help words)
  | some (name, words) =>
    let a ← ofCommand name words
    let top ← top.settle
    pure { a with config := a.config.or (top.get? .config), entry := a.entry.or (top.get? .entry) }

end Arguments

end AppMend
