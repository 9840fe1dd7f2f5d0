import AppMend.Grammar.Machine
import AppMend.Outline.Scanner
import AppMend.Outline.Track

/-!
# Reading outlines

A script is read along tracks. Where the grammar leaves open how to go on, a track splits; a track that a
token leads nowhere from is given up. A script is sound if a track reaches its end.

What is read becomes part of the outline as soon as a construct is complete. A bare construct passes its
nodes on to the construct around it. Comments belong to the innermost construct that goes on after them.
-/

namespace AppMend.Outline

open Grammar

/-- A text to be read, and the grammar it is read by. -/
structure Task where
  chart : Chart
  vocabulary : Vocabulary
  source : Array Char
  categories : Array Category

abbrev Run := StateM (Machine)

namespace Task

def ofText (d : Dialect) (s : List Char) : Task where
  chart := chartOf d
  vocabulary := .ofChart (chartOf d)
  source := s.toArray
  categories := ((grammarOf d).rules.map (·.1)).toArray

variable (t : Task)

def slice (start stop : Nat) : String := String.ofList (t.source.extract start stop).toList

/-- The text that names a node. -/
private def nameOf (kind : NodeKind) (start stop : Nat) (children : List Outline) : String :=
  match kind with
  | .openTag | .closeTag | .selfClosingTag =>
    ((children.find? (·.kind == .name)).map (·.text)).getD ""
  | .attribute => (children.head?.map (·.text)).getD ""
  | .name | .text | .reference => t.slice start stop
  | _ => ""

private def nodeOf (kind : NodeKind) (start stop : Nat) (children : List Outline) : Outline :=
  .sound kind start (t.nameOf kind start stop children) children

/-- The nodes that a token leaves. -/
def nodesOfToken (s : Scanned) : List Outline :=
  match lexemes[s.token]? with
  | none => []
  | some l => (l.kind?.map fun k => t.nodeOf k s.start s.stop []).toList

/-- Takes the last words of a construct off a stack, the last first, with the comments among them. -/
private def popWords : Nat → List Frame → List Frame × List Frame
  | 0, fs => ([], fs)
  | _, [] => ([], [])
  | n + 1, f :: fs =>
    let (popped, rest) := popWords (if f.isExtra then n + 1 else n) fs
    (f :: popped, rest)

/-- The nodes of frames that were popped, the last one first. -/
def nodesOf (popped : List Frame) : List Outline :=
  match popped.reverse with
  | [] => []
  | f :: fs => fs.foldl (fun nodes f => f.nodes ++ nodes) f.nodes

/-- Completes a construct: what is on the stack below it, the frame it leaves but for its state, and
the comments after it. -/
def complete (construct length : Nat) (frames : List Frame) :
    List Frame × Frame × List Frame :=
  let trailing := frames.takeWhile (·.isExtra)
  let (popped, below) := popWords length (frames.drop trailing.length)
  let start := (popped.getLast?.map (·.start)).getD 0
  let stop := (popped.head?.map (·.stop)).getD 0
  let nodes := nodesOf popped
  let isBare := match t.categories[construct]? with
    | some c => c.isBare
    | none => true
  let nodes := if isBare then nodes
    else
      let kind := ((t.categories[construct]?).map Category.kind).getD .other
      [t.nodeOf kind start stop nodes.reverse]
  let tally := Tally.around (!isBare) (popped.map (·.tally))
  (below, { state := 0, start, stop, nodes, tally }, trailing)

/-- The outline of a whole text, from what is on the stack at its end. -/
def rootOf (frames : List Frame) : Outline := .sound .other 0 "" (nodesOf frames).reverse

def favourOf (construct : Nat) : Int := ((t.categories[construct]?).map Category.favour).getD 0

/-- A way to go on: a track, or the outline of a text that is read to its end. -/
inductive Outcome where
  | track (track : Track)
  | whole (outline : Outline) (favour : Int)

/-- All ways to go on from some stacks with a token. -/
def onToken (s : Scanned) : Nat → List (List Frame × Int) → List Outcome → Run (List Outcome)
  | 0, _, found => pure found
  | _, [], found => pure found
  | fuel + 1, (frames, favour) :: todo, found => do
    let state := stateOn frames
    let asked (token : Nat) : Run (List Action) := modifyGet fun m => m.actionsOn t.chart state token
    let own ← asked s.token
    let actions ← if own.isEmpty && s.isKeyword then asked Lexeme.identifier.number_ else pure own
    let isName := own.isEmpty && s.isKeyword
    let isComment := own.isEmpty &&
      (s.token == Lexeme.comment.number_ || s.token == Lexeme.htmlComment.number_)
    let step := fun (state : Nat) (isComment : Bool) =>
      let nodes := t.nodesOfToken (if isName then { s with token := Lexeme.identifier.number_ } else s)
      let tally : Tally := { isShown := s.isShown }
      let frame : Frame :=
        { state, start := s.start, stop := s.stop, nodes, tally, isExtra := isComment }
      Outcome.track ⟨frame :: frames, s.stop, s.rest, favour⟩
    if isComment then onToken s fuel todo (step state true :: found)
    else
      let (todo, found) ← actions.foldlM (fun (todo, found) a => do
        match a with
        | .take next => pure (todo, step next false :: found)
        | .complete construct length =>
          let (below, frame, trailing) := t.complete construct length frames
          let favour := favour + t.favourOf construct
          if construct == t.chart.start then
            pure (todo, .whole (rootOf (trailing ++ frame :: below)) favour :: found)
          else
            match ← modifyGet fun m => m.move t.chart (stateOn below) construct with
            | some next =>
              let trailing := trailing.map fun f => { f with state := next }
              pure ((trailing ++ { frame with state := next } :: below, favour) :: todo, found)
            | none => pure (todo, found)) (todo, found)
      onToken s fuel todo found

/-- All ways to go on from a track. -/
private def advance (k : Track) : Run (List Outcome) := do
  let state := stateOn k.frames
  let valid := ((← get).situation state).valid
  match scan? t.vocabulary valid k.pos k.rest with
  | none => pure []
  | some s =>
    if s.token == Lexeme.end_.number_ && k.frames.all fun f => f.isExtra || f.state == 0 then
      pure [.whole (rootOf k.frames) k.favour]
    else t.onToken s 100000 [(k.frames, k.favour)] []

private def isSame (a b : Track) : Bool :=
  a.pos == b.pos && stateOn a.frames == stateOn b.frames && sameStates a.frames b.frames

/-- Adds a track unless there is one that goes on alike; of two such tracks the one in favour is kept. -/
private def addTrack (tracks : List Track) (k : Track) : List Track :=
  match tracks.find? (isSame k) with
  | none => tracks ++ [k]
  | some other =>
    if k.favour > other.favour then tracks.map fun o => if isSame k o then k else o else tracks

/-- How many tracks are followed at once. -/
private def manyTracks : Nat := 48

/-- Follows tracks to the end of the text. -/
private def follow : Nat → List Track → Option (Outline × Int) → Run (Option (Outline × Int))
  | 0, _, best => pure best
  | _, [], best => pure best
  | fuel + 1, k :: ks, best => do
    let pos := ks.foldl (fun p k => min p k.pos) k.pos
    let (now, later) := (k :: ks).partition (·.pos == pos)
    let (tracks, best) ← now.foldlM (fun (tracks, best) k => do
      let outcomes ← t.advance k
      pure (outcomes.foldr (fun o (acc : List Track × Option (Outline × Int)) =>
        match o with
        | .track k => (addTrack acc.1 k, acc.2)
        | .whole o favour => (acc.1, match acc.2 with
          | some b => if favour > b.2 then some (o, favour) else some b
          | none => some (o, favour))) (tracks, best))) (later, best)
    follow fuel (tracks.take manyTracks) best

end Task

/-- The outline of a script; none if it is not sound. -/
def read? (d : Dialect) (s : List Char) : Option Outline :=
  let t := Task.ofText d s
  let first : Track := ⟨[default], 0, s, 0⟩
  ((t.follow (8 * (s.length + 4)) [first] none).run (.initial t.chart)).1.map (·.1)

end AppMend.Outline
