import AppMend.Command.Run
import AppMend.Json.Printer

/-!
# The command line

Reads what the arguments name from the disk, carries out the command and prints its report. Neither a
browser nor an endpoint is at hand here, so a preview tells that it could not be made, and a heal gets
no new files.
-/

namespace AppMend

/-- The variables of the environment that settings come from. -/
def settingVariables : List String :=
  ["PREVIEW_ANALYZER", "PREVIEW_MODE", "PREVIEW_ENTRY", "PREVIEW_BUNDLE_STRATEGY",
    "PREVIEW_NAVIGATION_TIMEOUT_MS", "PREVIEW_SETTLE_MS", "PREVIEW_CHROME", "PREVIEW_NO_SANDBOX",
    "PREVIEW_MAX_ATTEMPTS", "PREVIEW_REGENERATION_TIMEOUT_MS", "PREVIEW_AGENT_URL",
    "PREVIEW_AGENT_MODEL", "PREVIEW_AGENT_API_KEY", "PREVIEW_AGENT_TIMEOUT_SECS",
    "PREVIEW_AGENT_TEMPERATURE", "PREVIEW_AGENT_MAX_TOKENS"]

/-- The environment of this process. -/
def readEnvironment : IO Environment := do
  let values ← settingVariables.filterMapM fun name => do
    return (← IO.getEnv name).map fun value => (name, value)
  return fun name => (values.find? (·.1 == name)).map (·.2)

/-- The place that a name leads to. -/
def placeBy (place : List String) (name : String) : List String :=
  if name = "" ∨ name = "." then place
  else if name = ".." then place.dropLast
  else place ++ [name]

/-- The places that a path leads over from another place, the last one first. -/
def wayFrom (here : List String) (path : String) : List (List String) :=
  let names := (Text.stretches (· == '/') path.toList).map String.ofList
  names.foldl (fun way name => placeBy (way.head?.getD []) name :: way)
    [if path.startsWith "/" then [] else here]

/-- The path of a place. -/
def pathOf (place : List String) : String := "/" ++ "/".intercalate place

/-- The content of the file at a place, if there is one. -/
def readFile? (place : List String) : IO (Option ByteArray) := do
  try
    return some (← IO.FS.readBinFile (pathOf place))
  catch _ =>
    return none

/-- The files at places. -/
def filesAt (places : List (List String)) : IO (List (List String × ByteArray)) :=
  places.filterMapM fun place => do
    return (← readFile? place).map fun content => (place, content)

/-- The files below an entry of a directory; those in directories that never count are left out. -/
partial def filesBelow (place : List String) (e : IO.FS.DirEntry) :
    IO (List (List String × ByteArray)) := do
  if ← e.path.isDir then
    let entries := (← e.path.readDir).toList.filter fun e =>
      !Load.skippedDirectories.contains e.fileName
    return (← entries.mapM fun e => filesBelow (place ++ [e.fileName]) e).flatten
  else
    filesAt [place]

/-- Where files of rules about a place may lie above it. -/
def rulesAbove (place : List String) : List (List String) :=
  (List.range place.length).flatMap fun depth =>
    IgnoreFile.kinds.map fun name => place.take depth ++ name

/-- What is on the disk at a path and, for the rules about it, above. -/
def readTree (here : List String) (path : String) : IO Tree := do
  let way := wayFrom here path
  let place := way.head?.getD []
  let entryAt (place : List String) : IO.FS.DirEntry := { root := pathOf place, fileName := "" }
  return {
    files := (← filesBelow place (entryAt place)) ++ (← filesAt (way.tail ++ rulesAbove place))
    directories := ← way.filterM fun place => (entryAt place).path.isDir
    here }

/-- What is on the disk at the paths that arguments name. -/
def Arguments.readTree (a : Arguments) : IO Tree := do
  let here := (wayFrom [] (toString (← IO.currentDir))).head?.getD []
  let trees ← (a.input :: a.config.toList).mapM (AppMend.readTree here)
  return { files := trees.flatMap (·.files), directories := trees.flatMap (·.directories), here }

/-- How the program is called. -/
def usageText : String :=
  "usage: app-mend [--config PATH] [--entry PATH] (validate | bundle | preview) INPUT\n" ++
  "       app-mend [--config PATH] [--entry PATH] heal INPUT --prompt TEXT [--session NAME] " ++
  "[--max-attempts N]"

/-- Carries out the words of a command line; the result is the exit code. -/
def runWords (words : List String) : IO UInt32 := do
  match Arguments.parse words with
  | .error .versionAsked =>
    IO.println "app-mend"
    return 0
  | .error e =>
    if e.exitCode = 0 then IO.println usageText else IO.eprintln usageText
    return e.exitCode.toUInt32
  | .ok a =>
    let world : CommandWorld :=
      { tree := ← a.readTree
        environment := ← readEnvironment
        browser := fun c => .absent c.preview.chromeExecutable
        exchange := .unreachable }
    match a.run world with
    | .error e =>
      IO.eprintln s!"Error: {e.message}"
      return 1
    | .ok r =>
      IO.println (r.body.indented 0)
      return if r.success then 0 else 1

end AppMend

/-- Carries out the command that the arguments name. -/
def main (args : List String) : IO UInt32 := AppMend.runWords args
