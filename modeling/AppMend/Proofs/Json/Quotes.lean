import AppMend.Json.Reader
import AppMend.Proofs.Outcome
import Mathlib.Data.List.TakeWhile

/-!
# What stands between the quotation marks of a document

A text that is a document can be read character by character, and each place of it lies within a pair of
quotation marks or outside of all (`Place`). Whatever the reader takes from a text, it comes from outside to
outside (`after?_of_readValue`), so a document ends outside (`after?_of_read`). Within quotation marks there is
no character of control, such as the end of a line; outside of them there is no grave accent.

Nothing is said here of what is read. That a text ends within quotation marks is enough to know that it is no
document.
-/

namespace AppMend.Json

variable {α β : Type} {c d e : Cursor} {x : Char} {s t u : List Char}

/-- Where a place of a text lies. -/
inductive Place where
  | outside
  | inside
  /-- Within quotation marks, behind a backslash. -/
  | escaped
deriving DecidableEq

namespace Place

/-- The place behind one character more, if it can stand there. -/
def next? : Place → Char → Option Place
  | outside, x => if x = '"' then some inside else if x = '\x60' then none else some outside
  | inside, x =>
    if x.toNat < 32 then none else some (if x = '"' then outside else if x = '\\' then escaped else inside)
  | escaped, x => if x.toNat < 32 then none else some inside

/-- The place behind a text. -/
def after? (p : Place) : List Char → Option Place
  | [] => some p
  | x :: s => (p.next? x).bind (·.after? s)

variable {p q r : Place}

theorem after?_append (p : Place) (s t : List Char) : p.after? (s ++ t) = (p.after? s).bind (·.after? t) := by
  induction s generalizing p with
  | nil => rfl
  | cons x s ih =>
      show (p.next? x).bind _ = ((p.next? x).bind _).bind _
      rw [Option.bind_assoc]
      exact congrArg _ (funext fun q => ih q)

/-- Characters that leave a place as it is. -/
theorem after?_of_forall (h : ∀ x ∈ s, p.next? x = some p) : p.after? s = some p := by
  induction s with
  | nil => rfl
  | cons x s ih =>
      rw [after?, h x List.mem_cons_self]
      exact ih fun y hy => h y (List.mem_cons_of_mem _ hy)

end Place

open Place
open Cursor (rest_next rest_skip)

/-! ## From one place to another -/

/-- From one cursor to another a text is passed, from one place to another. -/
def Leads (p q : Place) (c d : Cursor) : Prop := ∃ u, c.rest = u ++ d.rest ∧ p.after? u = some q

variable {p q r : Place}

theorem Leads.refl (p : Place) (c : Cursor) : Leads p p c c := ⟨[], rfl, rfl⟩

theorem Leads.trans (h : Leads p q c d) (h' : Leads q r d e) : Leads p r c e := by
  obtain ⟨u, hu, hp⟩ := h
  obtain ⟨v, hv, hq⟩ := h'
  refine ⟨u ++ v, by rw [hu, hv, List.append_assoc], ?_⟩
  rw [after?_append, hp]
  exact hq

theorem leads_next (h : c.rest = x :: s) (hx : p.next? x = some q) : Leads p q c c.next :=
  ⟨[x], by rw [h, rest_next h]; rfl, by rw [after?, hx]; rfl⟩

/-- Characters of a class that leaves a place as it is are passed. -/
theorem leads_takeWhile {is : Char → Bool} (his : ∀ x, is x = true → p.next? x = some p) (c : Cursor) :
    Leads p p c (c.skip (c.rest.takeWhile is).length) := by
  refine ⟨c.rest.takeWhile is, ?_, after?_of_forall fun x hx => his x (List.mem_takeWhile_imp hx)⟩
  have hsplit := List.takeWhile_append_dropWhile (p := is) (l := c.rest)
  have hdrop := congrArg (List.drop (c.rest.takeWhile is).length) hsplit
  rw [List.drop_left] at hdrop
  rw [rest_skip, ← hdrop, hsplit]

/-- A character that can stand outside of quotation marks and is none itself. -/
def isBare (x : Char) : Bool := x != '"' && x != '\x60'

theorem next?_of_isBare (h : isBare x = true) : outside.next? x = some outside := by
  obtain ⟨hquote, htick⟩ := Bool.and_eq_true_iff.mp h
  rw [next?, if_neg (bne_iff_ne.mp hquote), if_neg (bne_iff_ne.mp htick)]

theorem leads_bare (h : c.rest = x :: s) (hx : isBare x = true) : Leads outside outside c c.next :=
  leads_next h (next?_of_isBare hx)

theorem isBare_of_isDigit (h : x.isDigit = true) : isBare x = true := by
  unfold isBare
  by_cases hquote : x = '"'
  · subst hquote
    cases h
  · by_cases htick : x = '\x60'
    · subst htick
      cases h
    · simp [hquote, htick]

/-! ## Blanks, words and numbers -/

theorem leads_skipSpace (c : Cursor) : Leads outside outside c c.skipSpace := by
  refine leads_takeWhile (fun x hx => next?_of_isBare ?_) c
  simp only [Cursor.isSpace, Bool.or_eq_true, beq_iff_eq] at hx
  rcases hx with ((rfl | rfl) | rfl) | rfl <;> rfl

theorem leads_word {a b : α} {w : List Char} (hw : ∀ x ∈ w, isBare x = true)
    (h : readWord a w c = .ok (b, d)) : Leads outside outside c d := by
  induction w generalizing c with
  | nil =>
      cases h
      exact .refl _ _
  | cons y w ih =>
      unfold readWord at h
      split at h
      · cases h
      · rename_i x s hc
        split at h
        · rename_i hxy
          subst hxy
          have hmore := ih (fun z hz => hw z (List.mem_cons_of_mem _ hz)) h
          exact (leads_bare hc (hw x List.mem_cons_self)).trans hmore
        · cases h

theorem leads_takeDigits (fuel sig taken : Nat) (c : Cursor) :
    Leads outside outside c (takeDigits fuel sig taken c).2.2 := by
  induction fuel generalizing sig taken c with
  | zero => exact .refl _ _
  | succ fuel ih =>
      unfold takeDigits
      split
      · rename_i x s hc
        split
        · rename_i hx
          exact (leads_bare hc (isBare_of_isDigit hx.1)).trans (ih _ _ _)
        · exact .refl _ _
      · exact .refl _ _

theorem leads_passDigits (c : Cursor) : Leads outside outside c (passDigits c).2 :=
  leads_takeWhile (fun _ hx => next?_of_isBare (isBare_of_isDigit hx)) c

theorem leads_expDigits (fuel n : Nat) (c : Cursor) :
    Leads outside outside c (expDigits fuel n c).2.2 := by
  induction fuel generalizing n c with
  | zero => exact .refl _ _
  | succ fuel ih =>
      unfold expDigits
      split
      · rename_i x s hc
        split
        · rename_i hx
          have hnext := leads_bare hc (isBare_of_isDigit hx)
          split
          · exact hnext.trans (ih _ _)
          · exact hnext
        · exact .refl _ _
      · exact .refl _ _

theorem leads_finishFloat {negative : Bool} {sig : Nat} {exponent : Int} {v : Value}
    (h : finishFloat negative sig exponent c = .ok (v, d)) : Leads outside outside c d := by
  unfold finishFloat at h
  split at h
  · cases h
    exact .refl _ _
  · cases h

theorem leads_exponentDigits {negative down : Bool} {sig : Nat} {exponent : Int} {v : Value}
    (h : readExponentDigits negative sig exponent down c = .ok (v, d)) : Leads outside outside c d := by
  unfold readExponentDigits at h
  split at h
  · cases h
  · rename_i x s hc
    split at h
    · rename_i hx
      have hexp := leads_expDigits s.length (digitValue x) c.next
      refine (leads_bare hc (isBare_of_isDigit hx)).trans ?_
      split at h
      · rename_i heq
        rw [heq] at hexp
        split at h
        · cases h
        · cases h
          exact hexp.trans (leads_passDigits _)
      · rename_i heq
        rw [heq] at hexp
        exact hexp.trans (leads_finishFloat h)
    · cases h

/-- An exponent is read from its letter on. -/
theorem leads_readExponent {negative : Bool} {sig : Nat} {exponent : Int} {v : Value}
    (hc : c.rest = x :: s) (hx : isBare x = true)
    (h : readExponent negative sig exponent c = .ok (v, d)) : Leads outside outside c d := by
  refine (leads_bare hc hx).trans ?_
  unfold readExponent at h
  split at h
  · rename_i hplus
    exact (leads_bare hplus rfl).trans (leads_exponentDigits h)
  · rename_i hminus
    exact (leads_bare hminus rfl).trans (leads_exponentDigits h)
  · exact leads_exponentDigits h

theorem leads_afterDigits {negative : Bool} {sig : Nat} {exponent : Int} {v : Value}
    (h : afterDigits negative sig exponent c = .ok (v, d)) : Leads outside outside c d := by
  unfold afterDigits at h
  split at h
  · rename_i hc
    exact leads_readExponent hc rfl h
  · rename_i hc
    exact leads_readExponent hc rfl h
  · exact leads_finishFloat h

/-- A fraction is read from its point on. -/
theorem leads_readFraction {negative : Bool} {sig : Nat} {exponent : Int} {v : Value}
    (hc : c.rest = x :: s) (hx : isBare x = true)
    (h : readFraction negative sig exponent c = .ok (v, d)) : Leads outside outside c d := by
  have hdigits := leads_takeDigits c.next.rest.length sig 0 c.next
  refine (leads_bare hc hx).trans (hdigits.trans ?_)
  unfold readFraction at h
  dsimp only at h
  split at h
  · exact (leads_passDigits _).trans (leads_afterDigits h)
  · split at h
    · cases h
    · exact leads_afterDigits h

theorem leads_readNumber {negative : Bool} {v : Value} (h : readNumber negative c = .ok (v, d)) :
    Leads outside outside c d := by
  unfold readNumber at h
  split at h
  · cases h
  · rename_i x s hc
    split at h
    · cases h
    · split at h
      · rename_i hx
        have hwhole : Leads outside outside c
            (if x = '0' then (0, 1, c.next) else takeDigits c.rest.length 0 0 c).2.2 := by
          split
          · exact leads_bare hc (isBare_of_isDigit hx)
          · exact leads_takeDigits _ _ _ _
        dsimp only at h
        generalize (if x = '0' then (0, 1, c.next) else takeDigits c.rest.length 0 0 c) = whole at h hwhole
        refine hwhole.trans ?_
        -- more digits than fit are passed over, and what may follow them is the same
        split at h
        · refine (leads_passDigits _).trans ?_
          split at h
          · rename_i hpoint
            exact leads_readFraction hpoint rfl h
          · exact leads_afterDigits h
        · split at h
          · rename_i hpoint
            exact leads_readFraction hpoint rfl h
          · rename_i hletter
            exact leads_readExponent hletter rfl h
          · rename_i hletter
            exact leads_readExponent hletter rfl h
          · cases h
            exact .refl _ _
      · cases h

/-! ## Texts -/

/-- A character that can stand in a text and neither ends it nor escapes another. -/
def isPlain (x : Char) : Bool := decide (32 ≤ x.toNat) && x != '"' && x != '\\'

theorem isPlain_iff : isPlain x = true ↔ 32 ≤ x.toNat ∧ x ≠ '"' ∧ x ≠ '\\' := by
  simp [isPlain, and_assoc]

theorem next?_of_isPlain (h : isPlain x = true) : inside.next? x = some inside := by
  obtain ⟨hlarge, hquote, hslash⟩ := isPlain_iff.mp h
  rw [next?, if_neg (Nat.not_lt.mpr hlarge), if_neg hquote, if_neg hslash]

theorem isPlain_of_hexValue? {n : Nat} (h : hexValue? x = some n) : isPlain x = true := by
  have hquote : x ≠ '"' := by
    rintro rfl
    cases h
  have hslash : x ≠ '\\' := by
    rintro rfl
    cases h
  have hlarge : 32 ≤ x.toNat := by
    unfold hexValue? at h
    split at h
    · rename_i hx
      simp only [Char.isDigit, Bool.and_eq_true, decide_eq_true_eq] at hx
      exact Nat.le_trans (by decide) (UInt32.le_iff_toNat_le.mp hx.1)
    · split at h
      · rename_i hx
        exact Nat.le_trans (by decide) (UInt32.le_iff_toNat_le.mp hx.1)
      · split at h
        · rename_i hx
          exact Nat.le_trans (by decide) (UInt32.le_iff_toNat_le.mp hx.1)
        · cases h
  exact isPlain_iff.mpr ⟨hlarge, hquote, hslash⟩

theorem leads_readHex {n : Nat} (h : readHex c = .ok (n, d)) : Leads inside inside c d := by
  unfold readHex at h
  split at h
  · rename_i x₁ x₂ x₃ x₄ s hc
    split at h
    · rename_i h₁ h₂ h₃ h₄
      cases h
      refine ⟨[x₁, x₂, x₃, x₄], by rw [rest_skip, hc]; rfl, after?_of_forall ?_⟩
      intro x hx
      simp only [List.mem_cons, List.not_mem_nil, or_false] at hx
      refine next?_of_isPlain ?_
      rcases hx with rfl | rfl | rfl | rfl
      exacts [isPlain_of_hexValue? h₁, isPlain_of_hexValue? h₂, isPlain_of_hexValue? h₃,
        isPlain_of_hexValue? h₄]
    · cases h
  · cases h

theorem leads_readCodePoint (h : readCodePoint c = .ok (x, d)) : Leads inside inside c d := by
  unfold readCodePoint at h
  obtain ⟨⟨n, e⟩, hn, h⟩ := bind_eq_ok_iff.mp h
  refine (leads_readHex hn).trans ?_
  dsimp only at h
  split at h
  · cases h
  · split at h
    · cases h
      exact .refl _ _
    -- the second half of a pair
    · split at h
      · cases h
      · rename_i hslash
        split at h
        · cases h
        · rename_i s hu
          obtain ⟨⟨m, e'⟩, hm, h⟩ := bind_eq_ok_iff.mp h
          dsimp only at h
          split at h
          · cases h
          · obtain ⟨-, rfl⟩ := Prod.mk.inj (Except.ok.inj h)
            have hpair : Leads inside escaped e e.next := leads_next hslash rfl
            have hletter : Leads escaped inside e.next e.next.next := leads_next (rest_next hslash) rfl
            exact hpair.trans (hletter.trans (leads_readHex hm))
        · cases h
      · cases h

/-- An escape is read behind its backslash. -/
theorem leads_readEscape (h : readEscape c = .ok (x, d)) : Leads escaped inside c d := by
  unfold readEscape at h
  split at h
  case h_1 => cases h
  case h_10 =>
    rename_i hc
    exact (leads_next hc rfl).trans (leads_readCodePoint h)
  case h_11 => cases h
  all_goals
    rename_i hc
    obtain ⟨-, rfl⟩ := Prod.mk.inj (Except.ok.inj h)
    exact leads_next hc rfl

/-- The characters of a text are read up to the quotation mark behind them. -/
theorem leads_readChars {fuel : Nat} {done : List Char} {name : String}
    (h : readChars fuel done c = .ok (name, d)) : Leads inside outside c d := by
  induction fuel generalizing done c with
  | zero => cases h
  | succ fuel ih =>
      unfold readChars at h
      split at h
      · cases h
      · rename_i hc
        obtain ⟨-, rfl⟩ := Prod.mk.inj (Except.ok.inj h)
        exact leads_next hc rfl
      · rename_i hc
        obtain ⟨⟨x, e⟩, hx, h⟩ := bind_eq_ok_iff.mp h
        have hslash : Leads inside escaped c c.next := leads_next hc rfl
        exact hslash.trans ((leads_readEscape hx).trans (ih h))
      · rename_i x s hquote hslash hc
        split at h
        · cases h
        · rename_i hlarge
          have hx : isPlain x = true := isPlain_iff.mpr ⟨Nat.le_of_not_lt hlarge, hquote, hslash⟩
          exact (leads_next hc (next?_of_isPlain hx)).trans (ih h)

theorem leads_readText {name : String} (h : readText c = .ok (name, d)) : Leads inside outside c d :=
  leads_readChars h

/-! ## Lists and objects -/

section Nest

variable {item : Step Value} (hitem : ∀ {c v d}, item c = .ok (v, d) → Leads outside outside c d)
include hitem

theorem leads_readItems {fuel : Nat} {first : Bool} {done vs : List Value}
    (h : readItems item fuel first done c = .ok (vs, d)) : Leads outside outside c d := by
  induction fuel generalizing first done c with
  | zero => cases h
  | succ fuel ih =>
      refine (leads_skipSpace c).trans ?_
      unfold readItems at h
      dsimp only at h
      split at h
      · cases h
      · rename_i hend
        obtain ⟨-, rfl⟩ := Prod.mk.inj (Except.ok.inj h)
        exact leads_bare hend rfl
      · rename_i x s _ hc
        -- the comma before the item is passed, if there is one
        have hmore {e : Cursor} (he : (item e >>= fun r => readItems item fuel false (r.1 :: done) r.2) =
            .ok (vs, d)) : Leads outside outside e d := by
          obtain ⟨⟨v, e'⟩, hv, he⟩ := bind_eq_ok_iff.mp he
          exact (hitem hv).trans (ih he)
        split at h
        · exact hmore h
        · split at h
          · rename_i hcomma
            subst hcomma
            refine (leads_bare hc rfl).trans ((leads_skipSpace _).trans ?_)
            split at h
            · cases h
            · cases h
            · exact hmore h
          · cases h

theorem leads_readNamed {v : Value} (h : readNamed item c = .ok (v, d)) : Leads outside outside c d := by
  refine (leads_skipSpace c).trans ?_
  unfold readNamed at h
  dsimp only at h
  split at h
  · rename_i hcolon
    exact (leads_bare hcolon rfl).trans (hitem h)
  · cases h
  · cases h

theorem leads_readFields {fuel : Nat} {first : Bool} {done : List (String × Value)} {v : Value}
    (h : readFields item fuel first done c = .ok (v, d)) : Leads outside outside c d := by
  induction fuel generalizing first done c with
  | zero => cases h
  | succ fuel ih =>
      refine (leads_skipSpace c).trans ?_
      unfold readFields at h
      dsimp only at h
      split at h
      · cases h
      · rename_i x s hc
        split at h
        · rename_i hend
          subst hend
          obtain ⟨-, rfl⟩ := Prod.mk.inj (Except.ok.inj h)
          exact leads_bare hc rfl
        · -- a name, a colon and a value follow where a quotation mark stands
          have hfield {e : Cursor} {t : List Char} (hq : e.rest = '"' :: t)
              (he : (readText e.next >>= fun r => readNamed item r.2 >>= fun w =>
                readFields item fuel false (Value.insertField r.1 w.1 done) w.2) = .ok (v, d)) :
              Leads outside outside e d := by
            obtain ⟨⟨name, e'⟩, hname, he⟩ := bind_eq_ok_iff.mp he
            obtain ⟨⟨w, e''⟩, hw, he⟩ := bind_eq_ok_iff.mp he
            have hquote : Leads outside inside e e.next := leads_next hq rfl
            exact hquote.trans ((leads_readText hname).trans ((leads_readNamed hitem hw).trans (ih he)))
          split at h
          · split at h
            · rename_i hquote
              subst hquote
              exact hfield hc h
            · cases h
          · split at h
            · rename_i hcomma
              subst hcomma
              refine (leads_bare hc rfl).trans ((leads_skipSpace _).trans ?_)
              split at h
              · rename_i hquote
                exact hfield hquote h
              · cases h
              · cases h
            · cases h

end Nest

/-! ## Documents -/

/-- **A value is read from outside to outside.** -/
theorem leads_readValue {depth : Nat} {v : Value} (h : readValue depth c = .ok (v, d)) :
    Leads outside outside c d := by
  induction depth generalizing c v d with
  | zero => cases h
  | succ depth ih =>
      refine (leads_skipSpace c).trans ?_
      unfold readValue at h
      dsimp only at h
      split at h
      · cases h
      · rename_i hc
        exact (leads_bare hc rfl).trans (leads_word (List.all_eq_true.mp rfl) h)
      · rename_i hc
        exact (leads_bare hc rfl).trans (leads_word (List.all_eq_true.mp rfl) h)
      · rename_i hc
        exact (leads_bare hc rfl).trans (leads_word (List.all_eq_true.mp rfl) h)
      · rename_i hc
        exact (leads_bare hc rfl).trans (leads_readNumber h)
      · rename_i hc
        obtain ⟨⟨s, e⟩, hs, h⟩ := bind_eq_ok_iff.mp h
        cases h
        have hquote : Leads outside inside c.skipSpace c.skipSpace.next := leads_next hc rfl
        exact hquote.trans (leads_readText hs)
      · rename_i hc
        split at h
        · cases h
        · obtain ⟨⟨vs, e⟩, hvs, h⟩ := bind_eq_ok_iff.mp h
          cases h
          exact (leads_bare hc rfl).trans (leads_readItems ih hvs)
      · rename_i x s _ _ _ _ _ _ hc
        split at h
        · rename_i hbrace
          subst hbrace
          split at h
          · cases h
          · exact (leads_bare hc rfl).trans (leads_readFields ih h)
        · split at h
          · exact leads_readNumber h
          · cases h

/-- **A document ends outside of quotation marks.** -/
theorem after?_of_read {v : Value} (h : read s = .ok v) : outside.after? s = some outside := by
  obtain ⟨⟨w, e⟩, hw, h⟩ := bind_eq_ok_iff.mp h
  dsimp only at h
  split at h
  · rename_i hend
    obtain ⟨u, hu, hplace⟩ := (leads_readValue hw).trans (leads_skipSpace e)
    rw [List.isEmpty_iff.mp hend, List.append_nil] at hu
    rwa [show s = u from hu]
  · cases h

end AppMend.Json
