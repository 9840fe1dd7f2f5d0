import AppMend.Json.Printer
import AppMend.Json.Reader
import AppMend.Proofs.Table
import Mathlib.Data.List.TakeWhile
import Mathlib.Tactic.SplitIfs

/-!
# The ways to write a document

A document can be written in many ways: blanks stand between its parts, a character of a text stands for
itself or is escaped, and the fields of an object come in any order. `Written` tells these ways for documents
without numbers, by the rules of the format and not by how it is read.

Each part is read off the characters that write it, whatever follows (`Reads`), so a list or an object is read
item by item. Hence whatever the way, the document is read back (`read_of_written`).

The text that a document is printed as is one of the ways to write it (`written_text`), so what is printed is
read back. This is said of documents without numbers (`Textual`), and of those that do not nest too deep to be
read.
-/

namespace AppMend.Json

open Cursor (rest_next rest_skip)

variable {α : Type} {v w : Value} {vs : List Value} {fs : List (String × Value)} {n k : Nat} {x y : Char}
  {a b s t u q : List Char} {name : String} {c d : Cursor} {P : Value → List Char → Prop}

/-! ## Texts -/

/-- Nothing but blanks. -/
def Blank (s : List Char) : Prop := ∀ x ∈ s, x = ' ' ∨ x = '\t' ∨ x = '\n' ∨ x = '\r'

/-- A hexadecimal digit in either case. -/
def IsHex (x : Char) (n : Nat) : Prop :=
  n < 16 ∧ (x = Nat.digitChar n ∨ x = (Nat.digitChar n).toUpper)

/-- A number in four hexadecimal digits. -/
inductive FourHex : Nat → List Char → Prop where
  | mk {x₁ x₂ x₃ x₄ : Char} {n₁ n₂ n₃ n₄ : Nat} : IsHex x₁ n₁ → IsHex x₂ n₂ → IsHex x₃ n₃ → IsHex x₄ n₄ →
      FourHex (((n₁ * 16 + n₂) * 16 + n₃) * 16 + n₄) [x₁, x₂, x₃, x₄]

/-- What a letter behind a backslash stands for. -/
def shortEscapes : List (Char × Char) :=
  [('"', '"'), ('\\', '\\'), ('/', '/'), ('b', '\x08'), ('f', '\x0c'), ('n', '\n'), ('r', '\r'),
    ('t', '\t')]

/-- The ways to write a character of a text. -/
inductive WrittenChar (x : Char) : List Char → Prop where
  | plain : 32 ≤ x.toNat → x ≠ '"' → x ≠ '\\' → WrittenChar x [x]
  | short {y : Char} : (y, x) ∈ shortEscapes → WrittenChar x ['\\', y]
  | code {s : List Char} : FourHex x.toNat s → WrittenChar x ('\\' :: 'u' :: s)
  /-- Beyond four digits a character is written as two halves. -/
  | halves {high low : Nat} {s t : List Char} : 0xD800 ≤ high → high < 0xDC00 → 0xDC00 ≤ low →
      low < 0xE000 → x.toNat = (high - 0xD800) * 1024 + (low - 0xDC00) + 0x10000 → FourHex high s →
      FourHex low t → WrittenChar x ('\\' :: 'u' :: (s ++ '\\' :: 'u' :: t))

/-- The ways to write the characters of a text. -/
inductive WrittenChars : List Char → List Char → Prop where
  | nil : WrittenChars [] []
  | cons {x : Char} {s u w : List Char} : WrittenChar x w → WrittenChars s u →
      WrittenChars (x :: s) (w ++ u)

/-- The ways to write a text. -/
inductive WrittenText (name : String) : List Char → Prop where
  | mk {u : List Char} : WrittenChars name.toList u → WrittenText name ('"' :: (u ++ ['"']))

/-! ## Documents -/

/-- The ways to write what holds nothing else. -/
inductive Scalar : Value → List Char → Prop where
  | null : Scalar .null ['n', 'u', 'l', 'l']
  | yes : Scalar (.bool true) ['t', 'r', 'u', 'e']
  | no : Scalar (.bool false) ['f', 'a', 'l', 's', 'e']
  | text {s : String} {u : List Char} : WrittenText s u → Scalar (.str s) u

/-- The ways to write things one after another, with a comma between each two. -/
inductive Listed (P : α → List Char → Prop) : List α → List Char → Prop where
  | one {a : α} {u : List Char} : P a u → Listed P [a] u
  | more {a : α} {as : List α} {u w : List Char} : P a u → Listed P as w →
      Listed P (a :: as) (u ++ ',' :: w)

/-- The ways to write a value with blanks around. -/
inductive Item (P : Value → List Char → Prop) (v : Value) : List Char → Prop where
  | mk {a u b : List Char} : Blank a → P v u → Blank b → Item P v (a ++ (u ++ b))

/-- The ways to write a field with blanks around. -/
inductive Field (P : Value → List Char → Prop) : String × Value → List Char → Prop where
  | mk {a q b u : List Char} {name : String} {v : Value} : Blank a → WrittenText name q → Blank b →
      Item P v u → Field P (name, v) (a ++ (q ++ (b ++ ':' :: u)))

/-- The ways to write a list or an object of values that are written in some ways. -/
inductive Nest (P : Value → List Char → Prop) : Value → List Char → Prop where
  | noItems {a : List Char} : Blank a → Nest P (.arr []) ('[' :: (a ++ [']']))
  | items {vs : List Value} {u : List Char} : Listed (Item P) vs u → Nest P (.arr vs) ('[' :: (u ++ [']']))
  | noFields {a : List Char} : Blank a → Nest P (.obj []) ('\x7b' :: (a ++ ['\x7d']))
  /-- Each field is written once, in any order. -/
  | fields {fs : List (String × Value)} {u : List Char} : (fs.map (·.1)).Nodup → Listed (Field P) fs u →
      Nest P (.object fs) ('\x7b' :: (u ++ ['\x7d']))

/-- The ways to write a value in which lists and objects nest at most so deep. -/
def WrittenIn : Nat → Value → List Char → Prop
  | 0, v, s => Scalar v s
  | n + 1, v, s => Scalar v s ∨ Nest (WrittenIn n) v s

/-- The ways to write a document. -/
def Written (v : Value) (s : List Char) : Prop := Item (WrittenIn (maxDepth - 1)) v s

/-! ## Cursors -/

theorem Blank.isSpace (h : Blank a) : ∀ x ∈ a, Cursor.isSpace x = true := by
  intro x hx
  rcases h x hx with rfl | rfl | rfl | rfl <;> rfl

/-- The blanks ahead are passed, and no more. -/
theorem rest_skipSpace (ha : Blank a) (hx : Cursor.isSpace x = false) (h : c.rest = a ++ x :: s) :
    c.skipSpace.rest = x :: s := by
  rw [Cursor.skipSpace, rest_skip, h, List.takeWhile_append_of_pos ha.isSpace,
    List.takeWhile_cons_of_neg (by simp [hx]), List.append_nil, List.drop_left]

/-! ## What is read off its characters -/

/-- A value is read off some characters, whatever follows. -/
def Reads (step : Step α) (a : α) (u : List Char) : Prop :=
  ∀ c t, c.rest = u ++ t → ∃ d, step c = .ok (a, d) ∧ d.rest = t

theorem reads_word (a : α) (u : List Char) : Reads (readWord a u) a u := by
  induction u with
  | nil => exact fun c t h => ⟨c, rfl, h⟩
  | cons x u ih =>
      intro c t h
      unfold readWord
      rw [h]
      simpa using ih c.next t (rest_next h)

theorem hexValue?_of_isHex (h : IsHex x n) : hexValue? x = some n := by
  have hall : ∀ n < 16, hexValue? (Nat.digitChar n) = some n ∧ hexValue? (Nat.digitChar n).toUpper = some n := by
    decide
  obtain ⟨hn, rfl | rfl⟩ := h
  · exact (hall n hn).1
  · exact (hall n hn).2

theorem reads_hex (h : FourHex n u) : Reads readHex n u := by
  intro c t hc
  obtain ⟨h₁, h₂, h₃, h₄⟩ := h
  refine ⟨c.skip 4, ?_, by rw [rest_skip, hc]; rfl⟩
  unfold readHex
  rw [hc]
  simp [hexValue?_of_isHex h₁, hexValue?_of_isHex h₂, hexValue?_of_isHex h₃, hexValue?_of_isHex h₄]

theorem reads_code (h : FourHex x.toNat u) : Reads readCodePoint x u := by
  intro c t hc
  obtain ⟨d, hd, ht⟩ := reads_hex h c t hc
  refine ⟨d, ?_, ht⟩
  -- no character is one half of a pair
  have hvalid : x.toNat < 0xD800 ∨ 0xDFFF < x.toNat := x.valid.imp_right And.left
  have hchar : Char.ofNat x.toNat = x := Char.ofNat_toNat x
  unfold readCodePoint
  rw [hd]
  show ite _ _ _ = _
  rw [if_neg (by omega), if_pos (by omega), hchar]

theorem reads_halves {high low : Nat} {s t : List Char} (h₁ : 0xD800 ≤ high) (h₂ : high < 0xDC00)
    (h₃ : 0xDC00 ≤ low) (h₄ : low < 0xE000)
    (hx : x.toNat = (high - 0xD800) * 1024 + (low - 0xDC00) + 0x10000) (hs : FourHex high s)
    (ht : FourHex low t) : Reads readCodePoint x (s ++ '\\' :: 'u' :: t) := by
  intro c r hc
  rw [List.append_assoc] at hc
  obtain ⟨d, hd, hrest⟩ := reads_hex hs c _ hc
  have hu : d.next.rest = 'u' :: (t ++ r) := rest_next hrest
  obtain ⟨e, he, hend⟩ := reads_hex ht d.next.next r (rest_next hu)
  refine ⟨e, ?_, hend⟩
  unfold readCodePoint
  rw [hd]
  show ite _ _ _ = _
  rw [if_neg (by omega), if_neg (by omega), hrest]
  show (readHex d.next.next >>= _) = _
  rw [he]
  show ite _ _ _ = _
  rw [if_neg (by omega), ← hx, Char.ofNat_toNat]

/-- A character is read off what is behind the backslash of its escape. -/
theorem reads_escape (h : WrittenChar x ('\\' :: u)) : Reads readEscape x u := by
  intro c t hc
  unfold readEscape
  cases h with
  | plain _ _ hx => exact absurd rfl hx
  | @short y hy =>
      have hnext : c.next.rest = t := rest_next hc
      rw [hc]
      simp only [shortEscapes, List.mem_cons, Prod.mk.injEq, List.not_mem_nil, or_false] at hy
      rcases hy with ⟨rfl, rfl⟩ | ⟨rfl, rfl⟩ | ⟨rfl, rfl⟩ | ⟨rfl, rfl⟩ | ⟨rfl, rfl⟩ | ⟨rfl, rfl⟩ |
          ⟨rfl, rfl⟩ | ⟨rfl, rfl⟩ <;>
        exact ⟨c.next, rfl, hnext⟩
  | code hs =>
      rw [hc]
      exact reads_code hs c.next t (rest_next hc)
  | halves h₁ h₂ h₃ h₄ hx hs ht =>
      rw [hc]
      exact reads_halves h₁ h₂ h₃ h₄ hx hs ht c.next t (rest_next hc)

theorem WrittenChar.ne_nil (h : WrittenChar x u) : u ≠ [] := by
  cases h <;> exact List.cons_ne_nil _ _

/-- Characters are read up to the quotation mark behind them. -/
theorem reads_chars (h : WrittenChars s u) {fuel : Nat} (hfuel : u.length < fuel) (done : List Char) :
    Reads (readChars fuel done) (String.ofList (done.reverse ++ s)) (u ++ ['"']) := by
  induction h generalizing fuel done with
  | nil =>
      intro c t hc
      obtain ⟨fuel, rfl⟩ := Nat.exists_eq_add_one_of_ne_zero (Nat.ne_of_gt hfuel)
      refine ⟨c.next, ?_, rest_next hc⟩
      unfold readChars
      rw [hc, List.append_nil]
      rfl
  | @cons x s u w hx _ ih =>
      intro c t hc
      obtain ⟨fuel, rfl⟩ := Nat.exists_eq_add_one_of_ne_zero (n := fuel) (by omega)
      have hpos := List.length_pos_iff.mpr hx.ne_nil
      rw [List.length_append] at hfuel
      have hshort : u.length < fuel := by omega
      have hmore := ih hshort (x :: done)
      rw [List.reverse_cons, List.append_assoc, List.singleton_append] at hmore
      simp only [List.append_assoc] at hc
      -- a character that is escaped begins with a backslash, and any other stands for itself
      by_cases hesc : ∃ w', w = '\\' :: w'
      · obtain ⟨w', rfl⟩ := hesc
        obtain ⟨d, hd, hrest⟩ := reads_escape hx c.next _ (rest_next hc)
        obtain ⟨e, he, hend⟩ := hmore d t (by rw [hrest, List.append_assoc])
        refine ⟨e, ?_, hend⟩
        unfold readChars
        rw [hc]
        show (readEscape c.next >>= _) = _
        rw [hd]
        exact he
      · cases hx with
        | plain hlarge hquote hslash =>
            obtain ⟨e, he, hend⟩ := hmore c.next t (by rw [rest_next hc, List.append_assoc]; rfl)
            refine ⟨e, ?_, hend⟩
            rw [readChars, hc]
            split
            · rename_i hnil
              cases hnil
            · rename_i heq
              exact absurd (List.cons.inj heq).1 hquote
            · rename_i heq
              exact absurd (List.cons.inj heq).1 hslash
            · rename_i heq
              obtain ⟨rfl, -⟩ := List.cons.inj heq
              rw [if_neg (Nat.not_lt.mpr hlarge), he]
        | short | code | halves => exact absurd ⟨_, rfl⟩ hesc

/-- A text is read off what is behind its first quotation mark. -/
theorem reads_text (h : WrittenText name ('"' :: u)) : Reads readText name u := by
  intro c t hc
  obtain @⟨u, hu⟩ := h
  have hfuel : u.length < c.rest.length + 1 := by
    rw [hc]
    simp only [List.length_append]
    omega
  have hread := reads_chars hu hfuel [] c t hc
  simpa [readText] using hread

theorem WrittenText.head (h : WrittenText name u) : ∃ w, u = '"' :: w := by
  cases h
  exact ⟨_, rfl⟩

/-! ## Lists and objects -/

/-- A text begins neither with a blank nor with the end of a list. -/
def BeginsValue (u : List Char) : Prop := ∃ x s, u = x :: s ∧ Cursor.isSpace x = false ∧ x ≠ ']'

theorem Scalar.begins (h : Scalar v u) : BeginsValue u := by
  cases h with
  | null | yes | no => exact ⟨_, _, rfl, rfl, by decide⟩
  | text h =>
      obtain ⟨w, rfl⟩ := h.head
      exact ⟨_, _, rfl, rfl, by decide⟩

theorem WrittenIn.begins (h : WrittenIn n v u) : BeginsValue u := by
  cases n with
  | zero => exact Scalar.begins h
  | succ n =>
      rcases h with h | h
      · exact h.begins
      · cases h <;> exact ⟨_, _, rfl, rfl, by decide⟩

theorem Listed.length_le {P : α → List Char → Prop} {as : List α} (hP : ∀ a u, P a u → u ≠ [])
    (h : Listed P as u) : as.length ≤ u.length := by
  induction h with
  | one h => exact List.length_pos_iff.mpr (hP _ _ h)
  | more _ _ ih =>
      simp only [List.length_cons, List.length_append]
      omega

theorem Field.ne_nil {f : String × Value} (h : Field P f s) : s ≠ [] := by
  obtain ⟨_, hq, _⟩ := h
  obtain ⟨w, rfl⟩ := hq.head
  simp

theorem Item.ne_nil (hP : ∀ v u, P v u → BeginsValue u) (h : Item P v s) : s ≠ [] := by
  obtain ⟨_, hv, _⟩ := h
  obtain ⟨x, r, rfl, _⟩ := hP _ _ hv
  simp

/-- What stands before an item: nothing before the first, and else a comma. -/
inductive Separates : Bool → List Char → Prop where
  | nothing : Separates true []
  | comma {b : List Char} : Blank b → Separates false (b ++ [','])

theorem blank_nil : Blank [] := fun _ h => nomatch h

theorem readItems_end (item : Step Value) (first : Bool) (fuel : Nat) (ha : Blank a) (done : List Value)
    (hc : c.rest = a ++ ']' :: t) :
    ∃ d, readItems item (fuel + 1) first done c = .ok (done.reverse, d) ∧ d.rest = t := by
  have hskip : c.skipSpace.rest = ']' :: t := rest_skipSpace ha rfl hc
  refine ⟨c.skipSpace.next, ?_, rest_next hskip⟩
  rw [readItems]
  dsimp only
  rw [hskip]
  rfl

theorem readFields_end (item : Step Value) (first : Bool) (fuel : Nat) (ha : Blank a)
    (done : List (String × Value)) (hc : c.rest = a ++ '\x7d' :: t) :
    ∃ d, readFields item (fuel + 1) first done c = .ok (.obj done, d) ∧ d.rest = t := by
  have hskip : c.skipSpace.rest = '\x7d' :: t := rest_skipSpace ha rfl hc
  refine ⟨c.skipSpace.next, ?_, rest_next hskip⟩
  rw [readFields]
  dsimp only
  rw [hskip]
  exact if_pos rfl

section Nest

variable {item : Step Value} {first : Bool} {fuel : Nat} {sep r : List Char}
  (hread : ∀ v u, P v u → ∀ a, Blank a → Reads item v (a ++ u))
include hread

/-- One item more is read. -/
theorem readItems_item (hbegin : BeginsValue u) (hsep : Separates first sep) (ha : Blank a) (hv : P v u)
    (done : List Value) (hc : c.rest = sep ++ (a ++ (u ++ r))) :
    ∃ d, readItems item (fuel + 1) first done c = readItems item fuel false (v :: done) d ∧ d.rest = r := by
  obtain ⟨x, s, rfl, hspace, hlist⟩ := hbegin
  cases hsep with
  | nothing =>
      have hskip : c.skipSpace.rest = x :: (s ++ r) := rest_skipSpace ha hspace hc
      obtain ⟨d, hd, hrest⟩ := hread v _ hv [] blank_nil c.skipSpace r hskip
      refine ⟨d, ?_, hrest⟩
      rw [readItems]
      dsimp only
      rw [hskip]
      split
      · rename_i hnone
        cases hnone
      · rename_i hend
        exact absurd (List.cons.inj hend).1 hlist
      · show (item c.skipSpace >>= _) = _
        rw [hd]
        rfl
  | comma hb =>
      rw [List.append_assoc, List.singleton_append] at hc
      have hskip : c.skipSpace.rest = ',' :: (a ++ (x :: s ++ r)) := rest_skipSpace hb rfl hc
      have hskip' : c.skipSpace.next.skipSpace.rest = x :: (s ++ r) :=
        rest_skipSpace ha hspace (rest_next hskip)
      obtain ⟨d, hd, hrest⟩ := hread v _ hv [] blank_nil c.skipSpace.next.skipSpace r hskip'
      refine ⟨d, ?_, hrest⟩
      rw [readItems]
      dsimp only
      rw [hskip, hskip']
      split
      · rename_i hnone
        cases hnone
      · rename_i hend
        cases hend
      · rename_i hcomma
        obtain ⟨rfl, -⟩ := List.cons.inj hcomma
        rw [if_neg Bool.false_ne_true, if_pos rfl]
        split
        · rename_i hend
          exact absurd (List.cons.inj hend).1 hlist
        · rename_i hnone
          cases hnone
        · show (item c.skipSpace.next.skipSpace >>= _) = _
          rw [hd]
          rfl

/-- The value of a field is read off what is behind its name. -/
theorem reads_named (hb : Blank b) (ha : Blank a) (hv : P v u) :
    Reads (readNamed item) v (b ++ ':' :: (a ++ u)) := by
  intro c t hc
  have hcolon : c.skipSpace.rest = ':' :: (a ++ u ++ t) :=
    rest_skipSpace hb rfl (by rw [hc, List.append_assoc, List.cons_append])
  obtain ⟨d, hd, hend⟩ := hread v u hv a ha c.skipSpace.next t (rest_next hcolon)
  refine ⟨d, ?_, hend⟩
  unfold readNamed
  dsimp only
  rw [hcolon]
  exact hd

/-- One field more is read. -/
theorem readFields_field (hsep : Separates first sep) (ha : Blank a) (hq : WrittenText name q) (hb : Blank b)
    (ht : Blank t) (hv : P v u) (done : List (String × Value))
    (hc : c.rest = sep ++ (a ++ (q ++ (b ++ ':' :: (t ++ (u ++ r)))))) :
    ∃ d, readFields item (fuel + 1) first done c =
      readFields item fuel false (Value.insertField name v done) d ∧ d.rest = r := by
  obtain ⟨q, rfl⟩ := hq.head
  -- from the quotation mark on, the name and the value are read
  have hrest {e : Cursor} (he : e.rest = '"' :: (q ++ (b ++ ':' :: (t ++ (u ++ r))))) :
      ∃ e' d, readText e.next = .ok (name, e') ∧ readNamed item e' = .ok (v, d) ∧ d.rest = r := by
    obtain ⟨e', he', hrest⟩ := reads_text hq e.next _ (rest_next he)
    obtain ⟨d, hd, hend⟩ := reads_named hread hb ht hv e' r (by rw [hrest]; simp)
    exact ⟨e', d, he', hd, hend⟩
  cases hsep with
  | nothing =>
      have hskip : c.skipSpace.rest = '"' :: (q ++ (b ++ ':' :: (t ++ (u ++ r)))) :=
        rest_skipSpace ha rfl hc
      obtain ⟨e, d, he, hd, hend⟩ := hrest hskip
      refine ⟨d, ?_, hend⟩
      rw [readFields]
      dsimp only
      rw [hskip]
      show (readText c.skipSpace.next >>= _) = _
      rw [he]
      show (readNamed item e >>= _) = _
      rw [hd]
      rfl
  | comma hb' =>
      rw [List.append_assoc, List.singleton_append] at hc
      have hskip : c.skipSpace.rest = ',' :: _ := rest_skipSpace hb' rfl hc
      have hskip' : c.skipSpace.next.skipSpace.rest = '"' :: (q ++ (b ++ ':' :: (t ++ (u ++ r)))) :=
        rest_skipSpace ha rfl (rest_next hskip)
      obtain ⟨e, d, he, hd, hend⟩ := hrest hskip'
      refine ⟨d, ?_, hend⟩
      rw [readFields]
      dsimp only
      rw [hskip]
      dsimp only
      rw [if_neg (by decide), if_neg Bool.false_ne_true, if_pos rfl, hskip']
      show (readText c.skipSpace.next.skipSpace.next >>= _) = _
      rw [he]
      show (readNamed item e >>= _) = _
      rw [hd]
      rfl

/-- **Items are read one after another.** -/
theorem readItems_listed (hbegin : ∀ v u, P v u → BeginsValue u) (h : Listed (Item P) vs u)
    (hsep : Separates first sep) (hfuel : vs.length < fuel) (done : List Value)
    (hc : c.rest = sep ++ (u ++ ']' :: t)) :
    ∃ d, readItems item fuel first done c = .ok (done.reverse ++ vs, d) ∧ d.rest = t := by
  obtain ⟨fuel, rfl⟩ := Nat.exists_eq_add_one_of_ne_zero (n := fuel) (by omega)
  induction h generalizing fuel first sep done c with
  | @one v u hv =>
      obtain ⟨fuel, rfl⟩ := Nat.exists_eq_add_one_of_ne_zero (n := fuel) (by simp at hfuel; omega)
      obtain ⟨ha, hv, hb⟩ := hv
      simp only [List.append_assoc] at hc
      obtain ⟨d, hd, hrest⟩ := readItems_item hread (hbegin _ _ hv) hsep ha hv done hc
      obtain ⟨e, he, hend⟩ := readItems_end item false fuel hb (v :: done) hrest
      exact ⟨e, by rw [hd, he, List.reverse_cons], hend⟩
  | @more v vs u w hv _ ih =>
      obtain ⟨fuel, rfl⟩ := Nat.exists_eq_add_one_of_ne_zero (n := fuel) (by simp at hfuel; omega)
      obtain ⟨ha, hv, hb⟩ := hv
      simp only [List.append_assoc] at hc
      obtain ⟨d, hd, hrest⟩ := readItems_item hread (hbegin _ _ hv) hsep ha hv done hc
      obtain ⟨e, he, hend⟩ := ih (.comma hb) (v :: done) (c := d) (by rw [hrest]; simp) fuel
        (Nat.lt_of_succ_lt_succ hfuel)
      exact ⟨e, by rw [hd, he]; simp, hend⟩

/-- **Fields are read one after another**, each into its place. -/
theorem readFields_listed (h : Listed (Field P) fs u) (hsep : Separates first sep) (hfuel : fs.length < fuel)
    (done : List (String × Value)) (hc : c.rest = sep ++ (u ++ '\x7d' :: t)) :
    ∃ d, readFields item fuel first done c =
      .ok (.obj (fs.foldl (fun fs f => Value.insertField f.1 f.2 fs) done), d) ∧ d.rest = t := by
  obtain ⟨fuel, rfl⟩ := Nat.exists_eq_add_one_of_ne_zero (n := fuel) (by omega)
  induction h generalizing fuel first sep done c with
  | @one f u hf =>
      obtain ⟨fuel, rfl⟩ := Nat.exists_eq_add_one_of_ne_zero (n := fuel) (by simp at hfuel; omega)
      obtain ⟨ha, hq, hb, ha', hv, hb'⟩ := hf
      simp only [List.append_assoc, List.cons_append] at hc
      obtain ⟨d, hd, hrest⟩ := readFields_field hread hsep ha hq hb ha' hv done hc
      obtain ⟨e, he, hend⟩ := readFields_end item false fuel hb' _ hrest
      exact ⟨e, by rw [hd, he]; rfl, hend⟩
  | @more f fs u w hf _ ih =>
      obtain ⟨fuel, rfl⟩ := Nat.exists_eq_add_one_of_ne_zero (n := fuel) (by simp at hfuel; omega)
      obtain ⟨ha, hq, hb, ha', hv, hb'⟩ := hf
      simp only [List.append_assoc, List.cons_append] at hc
      obtain ⟨d, hd, hrest⟩ := readFields_field hread hsep ha hq hb ha' hv done hc
      obtain ⟨e, he, hend⟩ := ih (.comma hb') _ (c := d) (by rw [hrest]; simp) fuel
        (Nat.lt_of_succ_lt_succ hfuel)
      exact ⟨e, by rw [hd, he]; rfl, hend⟩

end Nest

/-! ## Documents are read back -/

/-- The value at a depth where lists and objects may still nest. -/
theorem readValue_scalar (h : Scalar v u) (n : Nat) (ha : Blank a) : Reads (readValue (n + 1)) v (a ++ u) := by
  intro c t hc
  rw [List.append_assoc] at hc
  rw [readValue]
  dsimp only
  cases h with
  | null =>
      have hskip : c.skipSpace.rest = 'n' :: _ := rest_skipSpace ha rfl hc
      rw [hskip]
      exact reads_word Value.null ['u', 'l', 'l'] c.skipSpace.next t (rest_next hskip)
  | yes =>
      have hskip : c.skipSpace.rest = 't' :: _ := rest_skipSpace ha rfl hc
      rw [hskip]
      exact reads_word (Value.bool true) ['r', 'u', 'e'] c.skipSpace.next t (rest_next hskip)
  | no =>
      have hskip : c.skipSpace.rest = 'f' :: _ := rest_skipSpace ha rfl hc
      rw [hskip]
      exact reads_word (Value.bool false) ['a', 'l', 's', 'e'] c.skipSpace.next t (rest_next hskip)
  | text hu =>
      obtain ⟨w, rfl⟩ := hu.head
      have hskip : c.skipSpace.rest = '"' :: (w ++ t) := rest_skipSpace ha rfl hc
      obtain ⟨d, hd, hrest⟩ := reads_text hu c.skipSpace.next t (rest_next hskip)
      refine ⟨d, ?_, hrest⟩
      rw [hskip]
      show (readText c.skipSpace.next >>= _) = _
      rw [hd]
      rfl

/-- **A value is read off the characters that write it.** -/
theorem reads_value (h : WrittenIn n v u) (ha : Blank a) : Reads (readValue (n + 1)) v (a ++ u) := by
  induction n generalizing v u a with
  | zero => exact readValue_scalar h 0 ha
  | succ n ih =>
      rcases h with h | h
      · exact readValue_scalar h (n + 1) ha
      have hread (v : Value) (u : List Char) (hv : WrittenIn n v u) (a : List Char) (ha : Blank a) :
          Reads (readValue (n + 1)) v (a ++ u) := ih hv ha
      have hbegin (v : Value) (u : List Char) (hv : WrittenIn n v u) : BeginsValue u := hv.begins
      have hdepth : n + 1 ≠ 0 := Nat.succ_ne_zero n
      intro c t hc
      rw [List.append_assoc] at hc
      rw [readValue]
      dsimp only
      cases h with
      | @noItems b hb =>
          have hskip : c.skipSpace.rest = '[' :: (b ++ ']' :: t) := rest_skipSpace ha rfl (by simpa using hc)
          obtain ⟨d, hd, hrest⟩ := readItems_end (readValue (n + 1)) true (b ++ ']' :: t).length hb []
            (rest_next hskip)
          refine ⟨d, ?_, hrest⟩
          rw [hskip]
          show (if n + 1 = 0 then _ else readItems _ _ _ _ _ >>= _) = _
          rw [if_neg hdepth, hd]
          rfl
      | @items vs u hu =>
          have hskip : c.skipSpace.rest = '[' :: (u ++ ']' :: t) := rest_skipSpace ha rfl (by simpa using hc)
          -- as many characters are ahead as there are items, so the fuel lasts
          have hlength := hu.length_le fun _ _ hi => Item.ne_nil hbegin hi
          have hfuel : vs.length < (u ++ ']' :: t).length + 1 := by
            rw [List.length_append]
            omega
          obtain ⟨d, hd, hrest⟩ := readItems_listed hread hbegin hu .nothing hfuel [] (rest_next hskip)
          refine ⟨d, ?_, hrest⟩
          rw [hskip]
          show (if n + 1 = 0 then _ else readItems _ _ _ _ _ >>= _) = _
          rw [if_neg hdepth, hd]
          rfl
      | @noFields b hb =>
          have hskip : c.skipSpace.rest = '\x7b' :: (b ++ '\x7d' :: t) :=
            rest_skipSpace ha rfl (by simpa using hc)
          obtain ⟨d, hd, hrest⟩ := readFields_end (readValue (n + 1)) true (b ++ '\x7d' :: t).length hb []
            (rest_next hskip)
          refine ⟨d, ?_, hrest⟩
          rw [hskip]
          show ite _ (ite _ _ _) _ = _
          rw [if_pos rfl, if_neg hdepth, hd]
      | @fields fs u _ hu =>
          have hskip : c.skipSpace.rest = '\x7b' :: (u ++ '\x7d' :: t) :=
            rest_skipSpace ha rfl (by simpa using hc)
          have hlength := hu.length_le fun _ _ hf => Field.ne_nil hf
          have hfuel : fs.length < (u ++ '\x7d' :: t).length + 1 := by
            rw [List.length_append]
            omega
          obtain ⟨d, hd, hrest⟩ := readFields_listed hread hu .nothing hfuel [] (rest_next hskip)
          refine ⟨d, ?_, hrest⟩
          rw [hskip]
          show ite _ (ite _ _ _) _ = _
          rw [if_pos rfl, if_neg hdepth]
          exact hd

theorem skipSpace_blank (ha : Blank a) (h : c.rest = a) : c.skipSpace.rest = [] := by
  have hall : a.takeWhile Cursor.isSpace = a := List.takeWhile_eq_self_iff.mpr ha.isSpace
  rw [Cursor.skipSpace, rest_skip, h, hall, List.drop_length]

/-- **A document is read back**, however it is written. -/
theorem read_of_written (h : Written v s) : read s = .ok v := by
  obtain ⟨ha, hv, hb⟩ := h
  obtain ⟨d, hd, hrest⟩ := reads_value hv ha (Cursor.start _) _ (List.append_assoc ..).symm
  unfold read
  show (readValue (maxDepth - 1 + 1) _ >>= _) = _
  rw [hd]
  show (if d.skipSpace.rest.isEmpty then _ else _) = _
  rw [skipSpace_blank hb hrest]
  rfl

/-! ## The compact text -/

theorem isHex_hexDigit (h : k < 16) : IsHex (hexDigit k) k := by
  have hall : ∀ k < 16, hexDigit k = Nat.digitChar k := by decide
  exact ⟨h, .inl (hall k h)⟩

theorem writtenChar_escapeChar (x : Char) : WrittenChar x (escapeChar x) := by
  unfold escapeChar
  split_ifs with hquote hslash _ _ _ _ _ hcontrol
  iterate 7 · exact .short (by simp [*, shortEscapes])
  · -- the code of a character of control has two digits
    have hcode : ((0 * 16 + 0) * 16 + x.toNat / 16) * 16 + x.toNat % 16 = x.toNat := by omega
    have hfour := FourHex.mk (isHex_hexDigit (k := 0) (by decide)) (isHex_hexDigit (k := 0) (by decide))
      (isHex_hexDigit (k := x.toNat / 16) (by omega)) (isHex_hexDigit (k := x.toNat % 16) (by omega))
    rw [hcode] at hfour
    exact .code hfour
  · exact .plain (Nat.le_of_not_lt hcontrol) hquote hslash

theorem writtenChars_flatMap (s : List Char) : WrittenChars s (s.flatMap escapeChar) := by
  induction s with
  | nil => exact .nil
  | cons x s ih => exact .cons (writtenChar_escapeChar x) ih

theorem writtenText_quote (s : String) : WrittenText s (quote s).toList := by
  rw [quote, String.toList_ofList]
  exact .mk (writtenChars_flatMap s.toList)

/-- What is written without blanks around. -/
theorem Item.bare {u : List Char} (h : P v u) : Item P v u := by
  have hitem := Item.mk blank_nil h blank_nil
  rwa [List.nil_append, List.append_nil] at hitem

theorem listed_itemsText (hne : vs ≠ []) (h : ∀ v ∈ vs, P v v.text.toList) :
    Listed (Item P) vs (itemsText vs).toList := by
  induction vs with
  | nil => exact absurd rfl hne
  | cons v vs ih =>
      have hv : Item P v v.text.toList := .bare (h v List.mem_cons_self)
      cases vs with
      | nil => exact .one hv
      | cons w vs =>
          have hmore := ih (List.cons_ne_nil _ _) fun w hw => h w (List.mem_cons_of_mem _ hw)
          simpa [itemsText] using Listed.more hv hmore

theorem field_text (name : String) (h : P v v.text.toList) :
    Field P (name, v) (quote name ++ ":" ++ v.text).toList := by
  have hfield := Field.mk blank_nil (writtenText_quote name) blank_nil (Item.bare h)
  simpa using hfield

theorem listed_fieldsText (hne : fs ≠ []) (h : ∀ f ∈ fs, P f.2 f.2.text.toList) :
    Listed (Field P) fs (fieldsText fs).toList := by
  induction fs with
  | nil => exact absurd rfl hne
  | cons f fs ih =>
      obtain ⟨name, v⟩ := f
      have hf := field_text name (h (name, v) List.mem_cons_self)
      cases fs with
      | nil => exact .one hf
      | cons g fs =>
          have hmore := ih (List.cons_ne_nil _ _) fun g hg => h g (List.mem_cons_of_mem _ hg)
          simpa [fieldsText] using Listed.more hf hmore

/-- A document without numbers, in which lists and objects nest at most so deep and the fields of an object
stand in order. -/
def Textual : Nat → Value → Prop
  | _, .null | _, .bool _ | _, .str _ => True
  | _, .num _ => False
  | 0, .arr _ | 0, .obj _ => False
  | n + 1, .arr vs => ∀ v ∈ vs, Textual n v
  | n + 1, .obj fs => Table.Ascending fs ∧ ∀ f ∈ fs, Textual n f.2

theorem textual_object (h : ∀ f ∈ fs, Textual n f.2) : Textual (n + 1) (.object fs) := by
  rw [Value.object_eq]
  exact ⟨Table.ascending_ofList fs, fun f hf => h f (Table.mem_of_mem_ofList hf)⟩

theorem writtenIn_text (h : Textual n v) : WrittenIn n v v.text.toList := by
  induction n generalizing v with
  | zero =>
      cases v with
      | null => exact Scalar.null
      | bool b => cases b <;> constructor
      | num => exact absurd h id
      | str s => exact Scalar.text (writtenText_quote s)
      | arr => exact absurd h id
      | obj => exact absurd h id
  | succ n ih =>
      cases v with
      | null => exact .inl .null
      | bool b => cases b <;> exact .inl (by constructor)
      | num => exact absurd h id
      | str s => exact .inl (.text (writtenText_quote s))
      | arr vs =>
          refine .inr ?_
          by_cases hne : vs = []
          · subst hne
            exact .noItems blank_nil
          · simpa [Value.text] using Nest.items (listed_itemsText hne fun v hv => ih (h v hv))
      | obj fs =>
          refine .inr ?_
          obtain ⟨hasc, hfs⟩ := h
          by_cases hne : fs = []
          · subst hne
            exact .noFields blank_nil
          · have hnames : (fs.map (·.1)).Nodup :=
              List.pairwise_map.mpr (hasc.imp fun hlt => String.ne_of_lt hlt)
            have hfields := Nest.fields hnames (listed_fieldsText hne fun f hf => ih (hfs f hf))
            rw [Value.object_of_ascending hasc] at hfields
            simpa [Value.text] using hfields

/-- **A document is written as its compact text.** -/
theorem written_text (h : Textual (maxDepth - 1) v) : Written v v.text.toList := .bare (writtenIn_text h)

/-- **What is printed is read back.** -/
theorem read_text (h : Textual (maxDepth - 1) v) : read v.text.toList = .ok v :=
  read_of_written (written_text h)

end AppMend.Json
