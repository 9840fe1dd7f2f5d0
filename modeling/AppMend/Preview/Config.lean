import AppMend.Text.Search

/-!
# Settings of the preview

Where the page gets its libraries, how long each step may take, and which words on a page tell that
it failed. A failed load is forgiven when it was from a host of the list, or from a host below one:
only the host of an address counts.
-/

namespace AppMend

structure PreviewConfig where
  reactUrl : String := "https://unpkg.com/react@18/umd/react.development.js"
  reactDomUrl : String := "https://unpkg.com/react-dom@18/umd/react-dom.development.js"
  /-- Hosts from which a failed load is no error. -/
  cdnHosts : List String := ["unpkg.com", "cdn.jsdelivr.net", "esm.sh", "cdnjs.cloudflare.com"]
  navigationTimeoutMs : Nat := 15000
  settleMs : Nat := 3000
  launchTimeoutMs : Nat := 30000
  /-- Words on a page that tell that it failed. -/
  failureMarkers : List String :=
    ["Something went wrong", "Uncaught Error", "Minified React error"]
  /-- Words taken off a page before it is searched for the others. -/
  allowedPhrases : List String := []
  chromeExecutable : Option String := none
  noSandbox : Bool := false
deriving DecidableEq, Inhabited

namespace PreviewConfig

/-- What follows the last `mark`, or all. -/
def afterLast (mark : Char) (s : List Char) : List Char :=
  (s.reverse.takeWhile (· != mark)).reverse

/-- The host of an address: after the scheme and the user, before its number and the path. -/
def hostOf? (url : List Char) : Option (List Char) :=
  match Text.cut? "://".toList url with
  | none => none
  | some (_, rest) =>
    let authority := rest.takeWhile fun c => c ∉ ['/', '?', '#']
    let host := (afterLast '@' authority).takeWhile (· != ':')
    if host.isEmpty then none else some host

/-- Whether a host is the given one or below it. -/
def isWithin (host cdn : List Char) : Bool := host == cdn || ('.' :: cdn).isSuffixOf host

/-- Whether a failed load from an address is forgiven. -/
def isCdn (c : PreviewConfig) (url : String) : Bool :=
  (hostOf? url.toList).any fun host => c.cdnHosts.any fun cdn => isWithin host cdn.toList

end PreviewConfig

end AppMend
