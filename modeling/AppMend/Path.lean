import AppMend.Text.Lines

/-!
# Paths

A path names a place below the root by segments between slashes; a backslash counts as a slash. Its
canonical form drops the empty segments and those for the same directory, folds a segment for the
parent into the one before it, and has no slash at either end. Paths that name the same place have one
canonical form.

The main statements say that the segments of a canonical form are the segments it was made of
(`segments_joined`), so making it again changes nothing (`normalize_normalize`).
-/

namespace AppMend.Path

/-- The character that ends a segment. -/
def isSeparator (c : Char) : Bool := c == '/' || c == '\\'

/-- The stretches between separators; there is one more of them than of separators. -/
def split (s : List Char) : List (List Char) := Text.stretches isSeparator s

theorem split_nil : split [] = [[]] := rfl

theorem split_cons (c : Char) (s : List Char) : split (c :: s) =
    if isSeparator c then [] :: split s
    else
      match split s with
      | [] => [[c]]
      | seg :: segs => (c :: seg) :: segs := by
  simp only [split, Text.stretches]
  cases Text.stretches isSeparator s <;> rfl

/-- One segment on top of those kept so far, which are given in reverse. -/
def push (kept : List (List Char)) (seg : List Char) : List (List Char) :=
  if seg = [] ∨ seg = ['.'] then kept
  else if seg = ['.', '.'] then kept.tail
  else seg :: kept

/-- The segments of the canonical form. -/
def segments (s : List Char) : List (List Char) := ((split s).foldl push []).reverse

/-- Segments with a slash between each two. -/
def joined (segs : List (List Char)) : List Char := ['/'].intercalate segs

/-- The canonical form of a path. -/
def normalize (p : String) : String := String.ofList (joined (segments p.toList))

/-- A relative path taken from a base, in canonical form. -/
def join (base relative : String) : String :=
  if base.isEmpty then normalize relative else normalize (base ++ "/" ++ relative)

/-- The stretches before and after the last slash. -/
def cutLast? (mark : Char) (s : List Char) : Option (List Char × List Char) :=
  if mark ∈ s then
    some ((s.reverse.dropWhile (· != mark)).tail.reverse, (s.reverse.takeWhile (· != mark)).reverse)
  else none

/-- What stands before the last slash; nothing for a path without one. -/
def parent (p : String) : String :=
  match cutLast? '/' p.toList with
  | some (dir, _) => String.ofList dir
  | none => ""

/-- What stands after the last slash. -/
def name (p : String) : String :=
  match cutLast? '/' p.toList with
  | some (_, file) => String.ofList file
  | none => p

/-- What stands after the last point of the name. -/
def extension? (p : String) : Option String :=
  (cutLast? '.' (name p).toList).map fun (_, ext) => String.ofList ext

/-! ## Canonical segments -/

/-- A segment that a canonical form may hold. -/
def Plain (seg : List Char) : Prop :=
  seg ≠ [] ∧ seg ≠ ['.'] ∧ seg ≠ ['.', '.'] ∧ ∀ c ∈ seg, isSeparator c = false

theorem split_ne_nil (s : List Char) : split s ≠ [] := by
  cases s with
  | nil => simp [split_nil]
  | cons c s =>
    simp only [split_cons]
    split
    · simp
    · split <;> simp

theorem not_isSeparator_of_mem_split {s seg : List Char} (h : seg ∈ split s) :
    ∀ c ∈ seg, isSeparator c = false := by
  induction s generalizing seg with
  | nil => simp_all [split_nil]
  | cons c s ih =>
    simp only [split_cons] at h
    split at h
    · rcases List.mem_cons.mp h with rfl | h
      · simp
      · exact ih h
    · rename_i hc
      split at h
      · rename_i he
        exact absurd he (split_ne_nil s)
      · rename_i x xs he
        rcases List.mem_cons.mp h with rfl | h
        · intro d hd
          rcases List.mem_cons.mp hd with rfl | hd
          · simpa using hc
          · exact ih (he ▸ List.mem_cons_self) d hd
        · exact ih (he ▸ List.mem_cons_of_mem _ h)

theorem split_of_no_separator {s : List Char} (h : ∀ c ∈ s, isSeparator c = false) :
    split s = [s] := by
  induction s with
  | nil => rfl
  | cons c s ih =>
    have hs := ih fun d hd => h d (List.mem_cons_of_mem _ hd)
    simp [split_cons, h c List.mem_cons_self, hs]

/-- A separator between two texts ends the last segment of the first. -/
theorem split_append {sep : Char} (hsep : isSeparator sep = true) (s t : List Char) :
    split (s ++ sep :: t) = split s ++ split t := by
  induction s with
  | nil => rw [List.nil_append, split_cons, if_pos hsep, split_nil, List.singleton_append]
  | cons c s ih =>
    rw [List.cons_append, split_cons, split_cons, ih]
    split
    · rfl
    · -- the character goes in front of the first segment, and there is one
      cases hs : split s with
      | nil => exact absurd hs (split_ne_nil s)
      | cons seg segs => rfl

theorem joined_cons_cons (a b : List Char) (segs : List (List Char)) :
    joined (a :: b :: segs) = a ++ '/' :: joined (b :: segs) := by
  simp [joined, List.intercalate, List.intersperse]

@[simp] theorem joined_singleton (a : List Char) : joined [a] = a := by
  simp [joined, List.intercalate, List.intersperse]

@[simp] theorem joined_nil : joined [] = [] := rfl

theorem split_joined {segs : List (List Char)} (hne : segs ≠ [])
    (h : ∀ seg ∈ segs, ∀ c ∈ seg, isSeparator c = false) : split (joined segs) = segs := by
  induction segs with
  | nil => exact absurd rfl hne
  | cons a segs ih =>
    cases segs with
    | nil => simpa using split_of_no_separator (h a List.mem_cons_self)
    | cons b segs =>
      rw [joined_cons_cons, split_append rfl, split_of_no_separator (h a List.mem_cons_self),
        ih (by simp) fun seg hs => h seg (List.mem_cons_of_mem _ hs), List.singleton_append]

theorem push_of_plain {seg : List Char} (h : Plain seg) (kept : List (List Char)) :
    push kept seg = seg :: kept := by
  simp [push, h.1, h.2.1, h.2.2.1]

theorem foldl_push_of_plain {segs : List (List Char)} (h : ∀ seg ∈ segs, Plain seg)
    (kept : List (List Char)) : segs.foldl push kept = segs.reverse ++ kept := by
  induction segs generalizing kept with
  | nil => rfl
  | cons a segs ih =>
    simp [push_of_plain (h a List.mem_cons_self),
      ih fun seg hs => h seg (List.mem_cons_of_mem _ hs)]

theorem plain_of_mem_foldl_push {segs kept : List (List Char)}
    (hs : ∀ seg ∈ segs, ∀ c ∈ seg, isSeparator c = false) (hk : ∀ seg ∈ kept, Plain seg) :
    ∀ seg ∈ segs.foldl push kept, Plain seg := by
  induction segs generalizing kept with
  | nil => simpa using hk
  | cons a segs ih =>
    apply ih fun seg h => hs seg (List.mem_cons_of_mem _ h)
    intro seg hseg
    unfold push at hseg
    split at hseg
    · exact hk seg hseg
    · split at hseg
      · exact hk seg (List.mem_of_mem_tail hseg)
      · rename_i h₁ h₂
        rcases List.mem_cons.mp hseg with rfl | hseg
        · exact ⟨fun h => h₁ (.inl h), fun h => h₁ (.inr h), h₂, hs seg List.mem_cons_self⟩
        · exact hk seg hseg

/-- The segments of a canonical form can stand in one. -/
theorem plain_of_mem_segments {s seg : List Char} (h : seg ∈ segments s) : Plain seg :=
  plain_of_mem_foldl_push (fun _ hs => not_isSeparator_of_mem_split hs) (by simp) seg
    (List.mem_reverse.mp h)

/-- Segments that can stand in a canonical form are read back from it. -/
theorem segments_joined {segs : List (List Char)} (h : ∀ seg ∈ segs, Plain seg) :
    segments (joined segs) = segs := by
  cases segs with
  | nil => decide
  | cons a segs =>
    rw [segments, split_joined (by simp) fun seg hs => (h seg hs).2.2.2, foldl_push_of_plain h]
    simp

/-- A canonical form is its own canonical form. -/
@[simp] theorem normalize_normalize (p : String) : normalize (normalize p) = normalize p := by
  simp [normalize, segments_joined fun seg h => plain_of_mem_segments h]

end AppMend.Path
