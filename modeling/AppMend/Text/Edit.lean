/-!
# Edits of a text

An edit replaces a stretch of a text. Several edits are made from the last one to the first, so that
the offsets of those to come still hold.
-/

namespace AppMend.Text

/-- The stretch from `start` up to `stop` is replaced by `new`. -/
structure Edit where
  start : Nat
  stop : Nat
  new : List Char
deriving DecidableEq, Inhabited

namespace Edit

/-- Makes one edit. -/
def apply (e : Edit) (s : List Char) : List Char := s.take e.start ++ e.new ++ s.drop e.stop

/-- Whether an edit is made before another: it starts later, or it starts there too and stops later. -/
def isMadeBefore (a b : Edit) : Bool :=
  b.start < a.start || (a.start == b.start && b.stop ≤ a.stop)

/-- Makes all edits of a list. -/
def applyAll (edits : List Edit) (s : List Char) : List Char :=
  (edits.mergeSort isMadeBefore).foldl (fun s e => e.apply s) s

end Edit

end AppMend.Text
