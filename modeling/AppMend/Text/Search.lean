import AppMend.Text.Letter

/-!
# Searching within a text

Occurrences of one text in another: the first one, the cut around it, and replacement of all of them
from left to right. Blanks are trimmed at either end, and a word is found whole when no part of a
name touches it on either side.
-/

namespace AppMend.Text

/-- What follows `p` at the start of a text. -/
def dropStart? (p : List Char) (s : List Char) : Option (List Char) :=
  if p.isPrefixOf s then some (s.drop p.length) else none

theorem dropStart?_eq_some {p s r : List Char} (h : dropStart? p s = some r) : s = p ++ r := by
  simp only [dropStart?] at h
  split at h
  · rename_i hp
    obtain ⟨t, rfl⟩ := List.isPrefixOf_iff_prefix.mp hp
    simp_all
  · simp at h

/-- What precedes and what follows the first occurrence of `p`. -/
def cut? (p : List Char) : List Char → Option (List Char × List Char)
  | [] => if p.isEmpty then some ([], []) else none
  | c :: s =>
    match dropStart? p (c :: s) with
    | some r => some ([], r)
    | none => (cut? p s).map fun (a, b) => (c :: a, b)

/-- Whether `p` occurs in a text. -/
def occursIn (p s : List Char) : Bool := (cut? p s).isSome

theorem cut?_eq_some {p s a b : List Char} (h : cut? p s = some (a, b)) : s = a ++ p ++ b := by
  induction s generalizing a b with
  | nil =>
    simp only [cut?] at h
    split at h <;> simp_all
  | cons c s ih =>
    simp only [cut?] at h
    split at h
    · rename_i r hr
      obtain ⟨rfl, rfl⟩ : [] = a ∧ r = b := by simpa using h
      simpa using dropStart?_eq_some hr
    · obtain ⟨⟨a', b'⟩, h', e⟩ := Option.map_eq_some_iff.mp h
      obtain ⟨rfl, rfl⟩ : c :: a' = a ∧ b' = b := by simpa using e
      simp [ih h']

theorem isSome_cut?_of_infix {p s : List Char} (h : p <:+: s) : (cut? p s).isSome = true := by
  induction s with
  | nil =>
    obtain rfl := List.infix_nil.mp h
    rfl
  | cons c s ih =>
    rw [cut?]
    split
    · rfl
    · rename_i hstart
      rcases List.infix_cons_iff.mp h with h | h
      · simp [dropStart?, List.isPrefixOf_iff_prefix.mpr h] at hstart
      · rw [Option.isSome_map]
        exact ih h

/-- What occurs in a text is a stretch of it. -/
theorem occursIn_iff {p s : List Char} : occursIn p s = true ↔ p <:+: s := by
  refine ⟨fun h => ?_, isSome_cut?_of_infix⟩
  obtain ⟨⟨a, b⟩, hcut⟩ := Option.isSome_iff_exists.mp h
  exact ⟨a, b, (cut?_eq_some hcut).symm⟩

/-- A text with every occurrence of a nonempty `p` replaced, from left to right. -/
def replaceAll (p new : List Char) (s : List Char) : List Char :=
  go s.length s
where
  /-- Replaces at most `n` occurrences. -/
  go : Nat → List Char → List Char
    | 0, s => s
    | n + 1, s =>
      match cut? p s with
      | some (a, b) => if p.isEmpty then s else a ++ new ++ go n b
      | none => s

/-- A text without the blanks at its start. -/
def trimStart (s : List Char) : List Char := s.dropWhile isBlank

/-- A text without the blanks at its end. -/
def trimEnd (s : List Char) : List Char := (s.reverse.dropWhile isBlank).reverse

/-- A text without the blanks at either end. -/
def trim (s : List Char) : List Char := trimEnd (trimStart s)

theorem trimStart_append {b : List Char} (hb : ∀ x ∈ b, isBlank x = true) (s : List Char) :
    trimStart (b ++ s) = trimStart s := List.dropWhile_append_of_pos hb

theorem trimEnd_append {b : List Char} (hb : ∀ x ∈ b, isBlank x = true) (s : List Char) :
    trimEnd (s ++ b) = trimEnd s := by
  rw [trimEnd, trimEnd, List.reverse_append, List.dropWhile_append_of_pos fun x hx => hb x (List.mem_reverse.mp hx)]

/-- A text is what its end is trimmed to and blanks. -/
theorem exists_trimEnd_append (s : List Char) : ∃ b, (∀ x ∈ b, isBlank x = true) ∧ s = trimEnd s ++ b := by
  refine ⟨(s.reverse.takeWhile isBlank).reverse, fun x hx => ?_, ?_⟩
  · exact List.all_eq_true.mp List.all_takeWhile x (List.mem_reverse.mp hx)
  · rw [trimEnd, ← List.reverse_append, List.takeWhile_append_dropWhile, List.reverse_reverse]

/-- **Blanks around a text are trimmed, and nothing else.** -/
theorem trim_append {a b u s t : List Char} {x y : Char} (ha : ∀ z ∈ a, isBlank z = true)
    (hb : ∀ z ∈ b, isBlank z = true) (hfirst : u = x :: s) (hx : isBlank x = false)
    (hlast : u = t ++ [y]) (hy : isBlank y = false) : trim (a ++ (u ++ b)) = u := by
  have hstart : trimStart (u ++ b) = u ++ b := by
    rw [hfirst]
    exact List.dropWhile_cons_of_neg (by simp [hx])
  rw [trim, trimStart_append ha, hstart, trimEnd_append hb, hlast, trimEnd, List.reverse_append,
    List.reverse_singleton, List.singleton_append, List.dropWhile_cons_of_neg (by simp [hy]),
    List.reverse_cons, List.reverse_reverse]

/-- Whether a text begins with a part of a name. -/
def startsInName (s : List Char) : Bool := (s.head?.map isNamePart).getD false

/-- Whether a text ends in a part of a name. -/
def endsInName (s : List Char) : Bool := (s.getLast?.map isNamePart).getD false

/-- A place where one text occurs in another: all that precedes it and all that follows. -/
structure Occurrence where
  before : List Char
  after : List Char
deriving DecidableEq

/-- The occurrences of `p` in `s`, where `pre` was passed already. At most `n` are listed. -/
def occurrencesFrom (p : List Char) : Nat → List Char → List Char → List Occurrence
  | 0, _, _ => []
  | n + 1, pre, s =>
    match cut? p s with
    | some (a, b) => ⟨pre ++ a, b⟩ :: occurrencesFrom p n (pre ++ a ++ p) b
    | none => []

/-- Every place of a text: where the empty text occurs. -/
def places (pre : List Char) : List Char → List Occurrence
  | [] => [⟨pre, []⟩]
  | c :: s => ⟨pre, c :: s⟩ :: places (pre ++ [c]) s

/-- The occurrences of `p` from left to right; each begins where the one before it ended, or later. -/
def occurrences (p s : List Char) : List Occurrence :=
  if p.isEmpty then places [] s else occurrencesFrom p (s.length + 1) [] s

/-- Whether `word` is found with no part of a name right before it or right after it. -/
def hasWord (word s : List Char) : Bool :=
  (occurrences word s).any fun o => !endsInName o.before && !startsInName o.after

theorem mem_occurrencesFrom {p : List Char} {n : Nat} {pre s : List Char} {o : Occurrence}
    (h : o ∈ occurrencesFrom p n pre s) : pre ++ s = o.before ++ p ++ o.after := by
  induction n generalizing pre s with
  | zero => simp [occurrencesFrom] at h
  | succ n ih =>
    simp only [occurrencesFrom] at h
    split at h
    · rename_i a b hc
      have hs := cut?_eq_some hc
      rcases List.mem_cons.mp h with rfl | h
      · simp [hs]
      · simpa [hs] using ih h
    · simp at h

theorem mem_places {pre s : List Char} {o : Occurrence} (h : o ∈ places pre s) :
    pre ++ s = o.before ++ o.after := by
  induction s generalizing pre with
  | nil => simp_all [places]
  | cons c s ih =>
    rcases List.mem_cons.mp h with rfl | h
    · rfl
    · simpa using ih h

/-- Every listed occurrence is one. -/
theorem eq_of_mem_occurrences {p s : List Char} {o : Occurrence} (h : o ∈ occurrences p s) :
    s = o.before ++ p ++ o.after := by
  unfold occurrences at h
  split at h
  · rename_i hp
    simpa [List.isEmpty_iff.mp hp] using mem_places h
  · simpa using mem_occurrencesFrom h

end AppMend.Text
