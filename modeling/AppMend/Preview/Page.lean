import AppMend.Preview.Verdict

/-!
# Pages and browsers

What a browser does with the pages it is given. A browser is described by its behaviour: whether it
starts, whether it opens pages, and what each page shows.
-/

namespace AppMend

/-- What a page reported while it was loaded. -/
inductive PageEvent where
  | console (level : ConsoleLevel) (text : String)
  | exception (message : String)
  | requestFailed (url error : String)
deriving DecidableEq, Inhabited

/-- What a page shows. -/
structure DomSnapshot where
  text : String := ""
  /-- Whether the boundary around the app caught an error. -/
  boundaryTripped : Bool := false
deriving DecidableEq, Inhabited

/-- How the loading of a page ends. -/
inductive Loading where
  | done
  | failed (error : String)
  /-- It does not end by itself. -/
  | endless
deriving DecidableEq, Inhabited

/-- What a page does. -/
structure PageBehaviour where
  loading : Loading := .done
  /-- How long the loading takes, if it ends. -/
  loadMs : Nat := 0
  /-- Whether the run is called off while the page is loaded. -/
  cancels : Bool := false
  events : List PageEvent := []
  /-- What the page shows, or why that cannot be told. -/
  dom : Except String DomSnapshot := .ok {}
  /-- How long a look at it takes. -/
  lookMs : Nat := 0
  /-- How long it takes to close it. Whether that goes well is not asked. -/
  closeMs : Nat := 0

/-- How a browser starts. -/
inductive Launch where
  | done
  | failed (error : String)
  | endless
  /-- There is none to start. -/
  | missing
deriving DecidableEq, Inhabited

/-- How the writing of a document ends, which a page is to show. -/
inductive Writing where
  | done
  /-- There is no directory for it. -/
  | refused (error : String)
  /-- It is broken off. -/
  | failed (error : String)
deriving DecidableEq, Inhabited

/-- A browser, with the disk that it shows documents from. -/
structure Browser where
  launch : Launch := .done
  /-- How long a start takes, if it ends. -/
  launchMs : Nat := 0
  writing : Writing := .done
  /-- Why no page can be opened, if none can. -/
  openError : Option String := none
  openMs : Nat := 0
  /-- Why it cannot be closed, if it cannot. -/
  closeError : Option String := none
  closeMs : Nat := 0
  /-- What the page of a document does. -/
  page : String → PageBehaviour

/-- A browser that is not there, neither at the path it was given nor anywhere else. -/
def Browser.absent (path? : Option String) : Browser where
  launch :=
    match path? with
    | some path =>
      let mark := (Char.ofNat 96).toString
      .failed ("could not canonicalize " ++ mark ++ path ++ mark)
    | none => .failed "Could not auto detect a chrome executable"
  page _ := {}

/-- Why a preview was not made. -/
inductive PreviewFailure where
  | launch (detail : String)
  | page (detail : String)
  | harness (detail : String)
  /-- The bundle is no script. -/
  | notRenderable (strategy : String)
  | unavailable (detail : String)
deriving DecidableEq, Inhabited

namespace PreviewFailure

def message : PreviewFailure → String
  | launch e => "Browser launch failed: " ++ e
  | page e => "Browser page error: " ++ e
  | harness e => "Preview harness I/O error: " ++ e
  | notRenderable s => s!"Bundle has no executable script (strategy: {s})"
  | unavailable e => "Preview backend unavailable: " ++ e

/-- A browser that did not start in time. -/
def launchTimeout (ms : Nat) : PreviewFailure := launch s!"browser did not start within {ms}ms"

/-- There is no browser that could be started. -/
def noBrowser : PreviewFailure :=
  unavailable ("built without the " ++ (String.singleton (Char.ofNat 96)) ++
    "chromium" ++ (String.singleton (Char.ofNat 96)) ++ " feature")

/-- A page that was to be used after it was closed. -/
def pageClosed : PreviewFailure := page "page already closed"

end PreviewFailure

end AppMend
