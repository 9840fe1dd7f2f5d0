import AppMend.Preview.Config
import AppMend.Preview.Page

/-!
# Inspection of a page

The verdict on a page that was opened: first whether it was loaded in time, then what it reported, in
that order, and last what it shows. A page that was not loaded in time is not looked at.
-/

namespace AppMend.Preview

/-- The issue of a reported event, if it is one. -/
def issueOf? (c : PreviewConfig) (entry : String) : PageEvent → Option PreviewIssue
  | .console .error text => some ⟨.consoleError, text, entry⟩
  | .console _ _ => none
  | .exception message => some ⟨.uncaughtException, message, entry⟩
  | .requestFailed url error =>
    if c.isCdn url then none
    else some ⟨.networkError, s!"Failed to load {url}: {error}", url⟩

def warningOf? : PageEvent → Option String
  | .console .warning text => some text
  | _ => none

def messageOf? : PageEvent → Option ConsoleMessage
  | .console level text => some ⟨level, text⟩
  | _ => none

/-- How much of a text is quoted. -/
def quotedLength : Nat := 200

/-- The start of a text without the blanks around it. -/
def quoted (text : String) : String :=
  let s := Text.trim text.toList
  String.ofList (s.take quotedLength) ++ (if quotedLength < s.length then "…" else "")

/-- A text without the allowed phrases, which are taken off one after another. -/
def withoutPhrases (phrases : List String) (text : List Char) : List Char :=
  phrases.foldl (fun s p => Text.replaceAll p.toList [] s) text

/-- The first marker of failure that a text shows. -/
def marker? (c : PreviewConfig) (text : String) : Option String :=
  let s := withoutPhrases c.allowedPhrases text.toList
  c.failureMarkers.find? fun m => Text.occursIn m.toList s

/-- The issue that a page shows, if it shows one. -/
def shownIssue? (c : PreviewConfig) (entry : String) (dom : DomSnapshot) : Option PreviewIssue :=
  if dom.boundaryTripped then
    some ⟨.reactError, "Error boundary rendered its fallback: " ++ quoted dom.text, entry⟩
  else
    (marker? c dom.text).map fun m => ⟨.reactError, s!"Page shows failure text \"{m}\"", entry⟩

/-- The issue that the look at a page gives. -/
def domIssue? (c : PreviewConfig) (entry : String) : Except String DomSnapshot → Option PreviewIssue
  | .ok dom => shownIssue? c entry dom
  | .error e =>
    some ⟨.rendererFailure, "DOM check did not complete: " ++ (PreviewFailure.page e).message, entry⟩

def timeoutIssue (c : PreviewConfig) : PreviewIssue :=
  ⟨.timeout, s!"Page did not load within {c.navigationTimeoutMs}ms", none⟩

/-- The verdict on a page of an app, which was loaded in time or not. -/
def inspect (c : PreviewConfig) (entry : String) (loaded : Bool) (p : PageBehaviour) : Verdict where
  errors :=
    (if loaded then [] else [timeoutIssue c]) ++ p.events.filterMap (issueOf? c entry) ++
      (if loaded then (domIssue? c entry p.dom).toList else [])
  warnings := p.events.filterMap warningOf?
  messages := p.events.filterMap messageOf?

end AppMend.Preview
