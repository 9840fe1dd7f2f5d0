import AppMend.Outline.Reader

/-!
# Reading faulty scripts

Where a token leads nowhere, a reading can go on in two ways. It can take for read a token that is not
there, if the construct it completes may be followed by the token that is. Or it is lost: it passes over
what it read last, and over tokens to come, until a token fits in some state it was in before; what was
passed over becomes one faulty place.

Each way has its cost: a fault costs something by itself, and so do the trees, the lines and the
characters that are passed over. The cheapest reading counts. Readings that cost clearly more than
another one are given up on the way.
-/

namespace AppMend.Outline

open Grammar

/-! ## Costs -/

def faultCost : Nat := 500

/-- The cost of a token that is not there. -/
def absenceCost : Nat := 110

def treeCost : Nat := 100

def lineCost : Nat := 30

def Passed.cost (p : Passed) : Nat :=
  faultCost + (p.stop - p.start) + lineCost * p.lines + treeCost * p.trees + p.inner

/-- How a reading fares. -/
inductive Course where
  | sound
  /-- A token leads nowhere. -/
  | stuck (token : Scanned)
  /-- Something is passed over. -/
  | lost (passed : Option Passed)

/-- A reading of a faulty script up to a place. -/
structure Reading where
  /-- What was read. When it is lost, in all ways in which constructs may end there. -/
  ways : List (List Frame)
  pos : Nat
  rest : List Char
  favour : Int := 0
  course : Course := .sound
  /-- How many trees were shown when the last fault was met. -/
  shownAtFault : Nat := 0

/-- The outline of a whole script with what its faults cost. -/
structure Whole where
  outline : Outline
  cost : Nat
  favour : Int

namespace Reading

def frames (r : Reading) : List Frame := r.ways.headD []

def state (r : Reading) : Nat := stateOn r.frames

def isSound (r : Reading) : Bool :=
  match r.course with
  | .sound => true
  | _ => false

def isStuck (r : Reading) : Bool :=
  match r.course with
  | .stuck _ => true
  | _ => false

private def costOf (frames : List Frame) : Nat := frames.foldl (fun n f => n + f.tally.cost) 0

private def shownIn (frames : List Frame) : Nat := frames.foldl (fun n f => n + f.tally.below) 0

/-- What the faults cost so far. -/
def cost (r : Reading) : Nat :=
  costOf r.frames + match r.course with
    | .sound => 0
    | .stuck _ | .lost none => faultCost
    | .lost (some p) => p.cost

/-- How many trees were shown since the last fault. -/
def shownSince (r : Reading) : Nat :=
  match r.course with
  | .lost (some p) => p.nodes.length + 1
  | _ => shownIn r.frames - r.shownAtFault

/-! ## Which reading is better -/

/-- How two readings compare: clearly, slightly, or not at all. -/
inductive Preference where
  | first
  | ratherFirst
  | neither
  | ratherSecond
  | second
deriving DecidableEq

/-- What counts when readings are compared. -/
structure Standing where
  cost : Nat
  isSound : Bool
  shown : Nat
  favour : Int

/-- How much more a reading may cost, for each tree that another one has shown since its last fault. -/
def margin : Nat := 1800

def Standing.compare (a b : Standing) : Preference :=
  if a.isSound && !b.isSound then if a.cost < b.cost then .first else .ratherFirst
  else if !a.isSound && b.isSound then if b.cost < a.cost then .second else .ratherSecond
  else if a.cost < b.cost then
    if margin < (b.cost - a.cost) * (1 + a.shown) then .first else .ratherFirst
  else if b.cost < a.cost then
    if margin < (a.cost - b.cost) * (1 + b.shown) then .second else .ratherSecond
  else if a.favour > b.favour then .ratherFirst
  else if b.favour > a.favour then .ratherSecond
  else .neither

def standing (r : Reading) : Standing where
  cost := r.cost + (if r.isStuck then treeCost else 0)
  isSound := r.isSound
  shown := r.shownSince
  favour := r.favour

/-- Whether two readings go on alike. -/
def goesLike (a b : Reading) : Bool :=
  a.pos == b.pos && a.cost == b.cost && !a.isStuck && !b.isStuck && a.isSound == b.isSound &&
    (!a.isSound || sameStates a.frames b.frames)

/-- Puts a reading into a list of better ones before it, unless one is clearly better or goes alike. -/
def rank : List Reading → Reading → List Reading
  | [], r => [r]
  | q :: qs, r =>
    match q.standing.compare r.standing with
    | .first => q :: qs
    | .ratherFirst | .neither => if q.goesLike r then q :: qs else q :: rank qs r
    | .ratherSecond => if q.goesLike r then q :: qs else r :: rank qs q
    | .second => rank qs r

/-- Whether a reading of a given cost would be clearly worse than one of others, or than a whole one. -/
def isBeaten (r : Reading) (others : List Reading) (whole : Option Whole) (cost : Nat) : Bool :=
  (whole.any fun w => w.cost ≤ cost) ||
    others.any fun o => r.pos ≤ o.pos &&
      Standing.compare ⟨cost, true, r.shownSince, r.favour⟩ o.standing == .second

end Reading

namespace Task

variable (t : Task)

/-! ## Tokens anywhere -/

/-- The tokens that are looked for where it is not known what to expect: not the insides of strings and
of regular expressions. -/
private def anything : TokenSet :=
  let inner : List Lexeme := [
    .doubleQuoted, .singleQuoted, .doubleQuotedAttribute, .singleQuotedAttribute, .regexPattern,
    .regexEnd, .regexFlags]
  .unionOf ((List.range (t.chart.kinds + t.chart.texts.size)).filterMap fun n =>
    if (lexemes[n]?).any inner.contains then none else some (.single n))

/-- A number that no token has. -/
private def noToken : Nat := 255

/-- The characters up to one that a token may begin with. -/
private def unknown (pos : Nat) : Nat → Nat → List Char → Scanned
  | _, n, [] => ⟨noToken, pos, pos + n, [], false⟩
  | 0, n, s => ⟨noToken, pos, pos + n, s, false⟩
  | fuel + 1, n, s =>
    if n > 0 && (scan? t.vocabulary t.anything (pos + n) s).isSome then ⟨noToken, pos, pos + n, s, false⟩
    else unknown pos fuel (n + 1) (s.drop 1)

/-- The token at a place, one of those that may come if there is one. -/
private def tokenAt (valid : TokenSet) (pos : Nat) (s : List Char) : Scanned :=
  match scan? t.vocabulary valid pos s <|> scan? t.vocabulary t.anything pos s with
  | some found => found
  | none => t.unknown pos s.length 0 s

private def linesIn (start stop : Nat) : Nat :=
  (t.source.extract start stop).foldl (fun n c => if c == '\n' then n + 1 else n) 0

/-! ## Passing over -/

private def isExtraToken (s : Scanned) : Bool :=
  s.token == Lexeme.comment.number_ || s.token == Lexeme.htmlComment.number_

/-- Passes over a token besides what was passed over before. -/
private def passToken (before : Option Passed) (s : Scanned) : Passed :=
  let start := (before.map (·.start)).getD s.start
  { start, stop := s.stop, lines := t.linesIn start s.stop
    trees := (before.map (·.trees)).getD 0 +
      (if isExtraToken s || s.token == noToken || !s.isShown then 0 else 1)
    inner := (before.map (·.inner)).getD 0
    nodes := t.nodesOfToken s ++ (before.map (·.nodes)).getD [] }

/-- What is passed over when frames are taken off a stack, the last first, before what was passed over
already. -/
private def passFrames (frames : List Frame) (after : Option Passed) : Passed :=
  let start := (frames.getLast?.map (·.start)).getD ((after.map (·.start)).getD 0)
  let stop := (after.map (·.stop)).getD ((frames.head?.map (·.stop)).getD 0)
  { start, stop, lines := t.linesIn start stop
    trees := (frames.foldl (fun n f => if f.isExtra then n else n + f.tally.width) 0) +
      (after.map (·.trees)).getD 0
    inner := (frames.foldl (fun n f => n + f.tally.cost) 0) + (after.map (·.inner)).getD 0
    nodes := (after.map (·.nodes)).getD [] ++ frames.flatMap (·.nodes) }

/-- Two stretches as one. -/
private def joinPassed (a b : Passed) : Passed :=
  { start := a.start, stop := b.stop, lines := t.linesIn a.start b.stop, trees := a.trees + b.trees
    inner := a.inner + b.inner, nodes := b.nodes ++ a.nodes }

/-- Puts a faulty place on a stack. One right before it becomes part of it. -/
private def pushPassed (p : Passed) (frames : List Frame) : List Frame :=
  let (p, frames) := match frames with
    | f :: fs =>
      match f.passed with
      | some before => (t.joinPassed before p, fs)
      | none => (p, frames)
    | [] => (p, frames)
  let node := Outline.node .other .error p.start (t.slice p.start p.stop) p.nodes.reverse
  { state := stateOn frames, start := p.start, stop := p.stop, nodes := [node]
    tally := { cost := p.cost, tops := p.trees, below := p.trees }, isExtra := true, passed := some p }
    :: frames

/-! ## Constructs that may end -/

/-- What is on a stack after each construct that may end there, whatever follows. -/
private def endings (frames : List Frame) : Run (List (List Frame)) := do
  let at_ := (← get).situation (stateOn frames)
  let ends := at_.standings.filterMap fun s =>
    let p := t.chart.places.getD s.place default
    if p.ends.isEmpty || s.look.isEmpty || p.owner == t.chart.start then none
    else some (p.owner, s.length)
  ends.eraseDups.filterMapM fun (construct, length) => do
    let (below, frame, trailing) := t.complete construct length frames
    match ← modifyGet fun m => m.move t.chart (stateOn below) construct with
    | some next =>
      pure (some (trailing.map (fun f => { f with state := next }) ++ { frame with state := next } :: below))
    | none => pure none

/-- Whether a state asks for more words. -/
private def asksForMore (frames : List Frame) : Run Bool := do
  let at_ := (← get).situation (stateOn frames)
  pure (at_.standings.isEmpty ||
    at_.standings.any fun s => !(t.chart.places.getD s.place default).next.isEmpty)

/-- All ways in which constructs may end; a stack that asks for nothing more only counts with
its constructs ended. -/
private def allEndings : Nat → List (List Frame) → List (List Frame) → Run (List (List Frame))
  | 0, _, found => pure found.reverse
  | _, [], found => pure found.reverse
  | fuel + 1, fs :: todo, found => do
    if found.any (sameStates fs) then allEndings fuel todo found
    else
      let ended ← t.endings fs
      let asks ← t.asksForMore fs
      allEndings fuel (todo ++ ended) (if asks || ended.isEmpty then fs :: found else found)

/-! ## Tokens that are not there -/

/-- The tokens in the order in which they are taken for read: names first. -/
private def absentTokens : List Nat :=
  let kinds := (List.range t.chart.kinds).filter fun n =>
    n != Lexeme.end_.number_ && n != Lexeme.identifier.number_
  let texts := (List.range t.chart.texts.size).map (· + t.chart.kinds)
  Lexeme.identifier.number_ :: (texts ++ kinds)

private def absentFrame (token state pos : Nat) : Frame :=
  let kind := ((lexemes[token]?).bind Lexeme.kind?).getD .other
  let text := (t.chart.texts[token - t.chart.kinds]?).getD ""
  { state, start := pos, stop := pos
    nodes := [.node kind .missing pos (if token < t.chart.kinds then "" else text) []]
    tally := { cost := faultCost + absenceCost } }

/-- A stack with a token on it that is not there, so that another token can follow. -/
private def withAbsent? (frames : List Frame) (favour : Int) (pos : Nat) (s : Scanned) :
    List Nat → Run (Option (List Frame))
  | [] => pure none
  | token :: more => do
    let state := stateOn frames
    let actions ← modifyGet fun m => m.actionsOn t.chart state token
    let next := actions.findSome? fun
      | .take next => if next == state then none else some next
      | .complete .. => none
    match next with
    | none => withAbsent? frames favour pos s more
    | some next =>
      let after ← modifyGet fun m => m.actionsOn t.chart next s.token
      let completes := after.any fun
        | .complete .. => true
        | .take _ => false
      let stack := t.absentFrame token next pos :: frames
      let goesOn ← if completes then do
          let onward ← t.onToken s 1000 [(stack, favour)] []
          pure !onward.isEmpty
        else pure false
      if goesOn then pure (some stack) else withAbsent? frames favour pos s more

private def firstAbsent? (favour : Int) (pos : Nat) (s : Scanned) :
    List (List Frame) → Run (Option (List Frame))
  | [] => pure none
  | frames :: more => do
    match ← t.withAbsent? frames favour pos s t.absentTokens with
    | some stack => pure (some stack)
    | none => firstAbsent? favour pos s more

/-! ## Getting lost and finding back -/

/-- A place to go back to: how many words lie above it, these, and the stack there. -/
private structure Return where
  depth : Nat
  above : List Frame
  frames : List Frame

/-- How far back a reading looks. -/
private def maxReturn : Nat := 16

private def returnsOn : Nat → List Frame → List Frame → List Return
  | depth, above, frames =>
    if depth > maxReturn then []
    else
      match frames with
      | [] => []
      | f :: fs =>
        ⟨depth, above, f :: fs⟩ :: returnsOn (if f.isExtra then depth else depth + 1) (above ++ [f]) fs

/-- The places to go back to, the nearest first, each state once for a depth. -/
private def returns (ways : List (List Frame)) : List Return :=
  let each := ways.map (returnsOn 1 [])
  let all := (List.range (maxReturn + 1)).flatMap fun d => each.flatMap fun rs => rs.filter (·.depth == d)
  all.foldl (fun rs r =>
    if rs.any fun q => q.depth == r.depth && stateOn q.frames == stateOn r.frames then rs
    else rs ++ [r]) []

private def stopOf (frames : List Frame) : Nat := (frames.head?.map (·.stop)).getD 0

/-- The place to go back to at which a token fits, if going there is worth it. -/
private def findReturn? (r : Reading) (s : Scanned) (others : List Reading) (whole : Option Whole) :
    List Return → Run (Option Return)
  | [] => pure none
  | q :: qs => do
    let state := stateOn q.frames
    let stop := stopOf q.frames
    let isThere := others.any fun o => o.isSound && o.pos == r.pos && o.state == state
    if stop == r.pos || isThere then findReturn? r s others whole qs
    else
      let cost := r.cost + treeCost * q.depth + (r.pos - stop) + lineCost * t.linesIn stop r.pos
      if r.isBeaten others whole cost then pure none
      else if ((← get).situation state).valid.contains s.token then pure (some q)
      else findReturn? r s others whole qs

/-- A lost reading at a token: it goes back to where the token fits, and passes over the token too. -/
private def atLoss (r : Reading) (passed : Option Passed) (s : Scanned) (others : List Reading)
    (whole : Option Whole) : Run (List Reading × List Whole) := do
  let back ← if s.token == noToken then pure none
    else t.findReturn? r s others whole (returns r.ways)
  let found : List Reading := match back with
    | none => []
    | some q =>
      let frames := t.pushPassed (t.passFrames q.above passed) q.frames
      let shown := min r.shownAtFault (Reading.shownIn q.frames)
      [{ r with ways := [frames], course := .sound, shownAtFault := shown }]
  if s.token == Lexeme.end_.number_ then
    let wholes := r.ways.map fun frames =>
      let p := t.passFrames frames passed
      ⟨.node .other .error 0 (t.slice p.start p.stop) p.nodes.reverse, p.cost, r.favour⟩
    pure (found, wholes)
  else
    let cost := r.cost + treeCost + (s.stop - r.pos) + lineCost * t.linesIn r.pos s.stop
    if r.isBeaten (others ++ found) whole cost then pure (found, [])
    else
      let lost := Course.lost (some (t.passToken passed s))
      pure ({ r with pos := s.stop, rest := s.rest, course := lost } :: found, [])

/-- A reading at a token that leads nowhere. -/
private def atFault (r : Reading) (s : Scanned) (others : List Reading) (whole : Option Whole) :
    Run (List Reading × List Whole) := do
  let ways ← t.allEndings 64 [r.frames] []
  let absent ← t.firstAbsent? r.favour r.pos s ways
  let mended : List Reading := match absent with
    | none => []
    | some frames => [{ r with ways := [frames], course := .sound }]
  let lost := { r with ways, course := .lost none, shownAtFault := Reading.shownIn r.frames }
  let (found, wholes) ← t.atLoss lost none s (others ++ mended) whole
  pure (found ++ mended, wholes)

/-! ## Following readings -/

/-- A reading one token on. -/
private def stepOn (r : Reading) (others : List Reading) (whole : Option Whole) :
    Run (List Reading × List Whole) := do
  match r.course with
  | .stuck _ => pure ([r], [])
  | .lost passed => t.atLoss r passed (t.tokenAt t.anything r.pos r.rest) others whole
  | .sound =>
    let valid := ((← get).situation r.state).valid
    let s := t.tokenAt valid r.pos r.rest
    if s.token == Lexeme.end_.number_ && r.frames.all fun f => f.isExtra || f.state == 0 then
      pure ([], [⟨rootOf r.frames, r.cost, r.favour⟩])
    else
      let onward ← t.onToken s 1000 [(r.frames, r.favour)] []
      if onward.isEmpty then pure ([{ r with course := .stuck s }], [])
      else
        pure (onward.foldr (fun w (acc : List Reading × List Whole) =>
          match w with
          | .track k =>
            ({ r with ways := [k.frames], pos := k.pos, rest := k.rest, favour := k.favour } :: acc.1, acc.2)
          | .whole o favour => (acc.1, ⟨o, r.cost, favour⟩ :: acc.2)) ([], []))

private def better (a : Option Whole) (b : Whole) : Option Whole :=
  match a with
  | none => some b
  | some a => if b.cost < a.cost || (b.cost == a.cost && b.favour > a.favour) then some b else some a

/-- Takes the readings that are at a place one token on. -/
private def stepAll (pos : Nat) : List Reading → List Reading → Option Whole →
    Run (List Reading × Option Whole)
  | [], done, whole => pure (done, whole)
  | r :: rs, done, whole => do
    if r.pos == pos then
      let (found, wholes) ← t.stepOn r (done ++ rs) whole
      stepAll pos rs (done ++ found) (wholes.foldl better whole)
    else stepAll pos rs (done ++ [r]) whole

/-- How many readings are followed at once. -/
private def manyReadings : Nat := 12

/-- Lets the best reading deal with a token that leads nowhere, if it is stuck, and gives up others that
are. -/
private def unstick (rs : List Reading) (whole : Option Whole) : Run (List Reading × Option Whole) := do
  match rs with
  | [] => pure ([], whole)
  | r :: more =>
    let others := more.filter (!·.isStuck)
    match r.course with
    | .stuck s =>
      let (found, wholes) ← t.atFault { r with course := .sound } s others whole
      pure (found ++ others, wholes.foldl better whole)
    | _ => pure (r :: others, whole)

/-- Follows readings to the end of the script. -/
private def followAll : Nat → List Reading → Option Whole → Run (Option Whole)
  | 0, _, whole => pure whole
  | _, [], whole => pure whole
  | fuel + 1, r :: rs, whole => do
    let pos := rs.foldl (fun p k => min p k.pos) r.pos
    let (stepped, whole) ← t.stepAll pos (r :: rs) [] whole
    let ranked := (stepped.foldl Reading.rank []).take manyReadings
    let (readings, whole) ← t.unstick ranked whole
    let isDone := whole.any fun w => readings.all fun k => w.cost < k.cost
    if isDone then pure whole else followAll fuel readings whole

end Task

/-- The outline of a faulty script. -/
def ofFaulty (d : Dialect) (s : List Char) : Outline :=
  let t := Task.ofText d s
  let first : Reading := { ways := [[default]], pos := 0, rest := s }
  match ((t.followAll (16 * (s.length + 4)) [first] none).run (.initial t.chart)).1 with
  | some w => w.outline
  | none => .node .other .error 0 (String.ofList s) []

/-- The outline of a script. -/
def ofText (d : Dialect) (s : List Char) : Outline := (read? d s).getD (ofFaulty d s)

end AppMend.Outline
