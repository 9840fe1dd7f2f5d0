/-!
# Lines of a text

A text is a list of characters. Two notions of line are in use: the number of the line that an offset
lies on counts line feeds, and the list of a text's lines also drops a carriage return that stands
before a line feed. They agree on how many lines precede an offset.
-/

namespace AppMend.Text

/-- The number of line feeds of a text. -/
def newlines (s : List Char) : Nat := s.count '\n'

@[simp] theorem newlines_nil : newlines [] = 0 := rfl

@[simp] theorem newlines_append (s t : List Char) : newlines (s ++ t) = newlines s + newlines t :=
  List.count_append

@[simp] theorem newlines_reverse (s : List Char) : newlines s.reverse = newlines s :=
  List.count_reverse

/-- The line, counted from one, that an offset lies on. -/
def lineAt (s : List Char) (offset : Nat) : Nat := newlines (s.take offset) + 1

theorem lineAt_pos (s : List Char) (offset : Nat) : 0 < lineAt s offset := Nat.succ_pos _

/-- The offset of the end of `pre` lies on the line that follows the line feeds of `pre`. -/
theorem lineAt_length_append (pre post : List Char) :
    lineAt (pre ++ post) pre.length = newlines pre + 1 := by
  simp [lineAt]

private def dropReturn : List Char → List Char
  | '\r' :: s => s
  | s => s

/-- The stretches between marks; there is one more of them than of marks. -/
def stretches (isMark : α → Bool) : List α → List (List α)
  | [] => [[]]
  | a :: s =>
    if isMark a then [] :: stretches isMark s
    else
      match stretches isMark s with
      | [] => [[a]]
      | t :: ts => (a :: t) :: ts

/-- The lines that remain when the text `cur`, given in reverse, was already read of the first. -/
def linesFrom (cur : List Char) : List Char → List (List Char)
  | [] => if cur.isEmpty then [] else [cur.reverse]
  | c :: s => if c = '\n' then (dropReturn cur).reverse :: linesFrom [] s else linesFrom (c :: cur) s

/-- The lines of a text. A line feed ends a line, with the carriage return before it; no line follows
the last line feed. -/
def lines (s : List Char) : List (List Char) := linesFrom [] s

@[simp] theorem lines_nil : lines [] = [] := rfl

theorem linesFrom_append {u : List Char} (h : '\n' ∉ u) (cur s : List Char) :
    linesFrom cur (u ++ s) = linesFrom (u.reverse ++ cur) s := by
  induction u generalizing cur with
  | nil => rfl
  | cons c u ih =>
      rw [List.mem_cons, not_or] at h
      rw [List.cons_append, linesFrom, if_neg (Ne.symm h.1), ih h.2, List.reverse_cons, List.append_assoc]
      rfl

theorem lines_of_not_mem {u : List Char} (h : '\n' ∉ u) (hne : u ≠ []) : lines u = [u] := by
  have := linesFrom_append h [] []
  rw [List.append_nil, List.append_nil, linesFrom, if_neg (by simpa using hne), List.reverse_reverse] at this
  exact this

/-- A line up to a line feed, but for a carriage return, is the first one. -/
theorem exists_lines_append {u : List Char} (h : '\n' ∉ u) (s : List Char) :
    ∃ l, (u = l ∨ u = l ++ ['\r']) ∧ lines (u ++ '\n' :: s) = l :: lines s := by
  refine ⟨(dropReturn u.reverse).reverse, ?_, ?_⟩
  · unfold dropReturn
    split
    · rename_i t ht
      exact .inr (List.reverse_eq_cons_iff.mp ht)
    · exact .inl (List.reverse_reverse u).symm
  · rw [lines, linesFrom_append h, List.append_nil, linesFrom, if_pos rfl, lines]

end AppMend.Text
