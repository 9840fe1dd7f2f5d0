import AppMend.Check.Tags
import AppMend.Text.Lines

/-!
# How a text is read for tags

The scan for tags goes from place to place, and each of its moves reads one piece of the text: a
character that belongs to no tag of a component, a closing tag or an opening tag. The pieces make up the
text (`Reads.text_eq`), every text can be read to its end (`exists_isReading`), and the events of the scan are
those of the pieces, each with the line that was counted up to it (`Reads.tagEvents_eq`).

One kind of line feed is not counted: one that is escaped in a quoted value of an opening tag
(`Piece.hidden`). So what an event says of its line is short by those before it
(`exists_piece_of_opened`).

A tag that is left open in the end was opened somewhere, for the stack holds only what the events told
(`mem_unclosed`). So it stands in the text, and the line told with it is exact if and only if no line feed
before it is escaped (`line_of_unclosed`).
-/

namespace AppMend.Check

open Text

variable {a : Attr} {c prev : Char} {s t : List Char} {d n line : Nat} {e : TagEnd}

/-! ## The end of an opening tag -/

/-- Where the search for the end of a tag stands behind one more character. -/
def Attr.next (c : Char) : Attr → Attr
  | plain => if c = '"' ∨ c = '\'' ∨ c = Char.ofNat 96 then quoted c else plain
  | quoted mark => if c = '\\' then escaped mark else if c = mark then plain else quoted mark
  | escaped mark => quoted mark

/-- Whether the next character is escaped. -/
def Attr.isEscaped : Attr → Bool
  | escaped _ => true
  | _ => false

/-- The escaped line feeds in the quoted values of a tag. -/
def escapedFeeds : Attr → List Char → Nat
  | _, [] => 0
  | a, c :: s => (if a.isEscaped ∧ c = '\n' then 1 else 0) + escapedFeeds (a.next c) s

theorem newlines_cons (c : Char) (s : List Char) :
    newlines (c :: s) = newlines s + if c = '\n' then 1 else 0 := by
  simp [newlines, List.count_cons]

/-- The search ends at a `>`, or it goes on and counts a line feed that is not escaped. -/
theorem tagEnd?_cons (h : tagEnd? a d last n (c :: s) = some e) :
    (c = '>' ∧ e.rest = s ∧ e.newlines = n) ∨
      ∃ d' last' n', tagEnd? (a.next c) d' last' n' s = some e ∧
        n' + (if a.isEscaped ∧ c = '\n' then 1 else 0) = if c = '\n' then n + 1 else n := by
  cases a with
  | escaped mark =>
      -- the one place where a line feed is passed over without a count
      refine .inr ⟨_, _, _, h, ?_⟩
      by_cases hc : c = '\n' <;> simp [Attr.isEscaped, hc]
  | quoted mark =>
      refine .inr ?_
      simp only [tagEnd?] at h
      simp only [Attr.next]
      split at h
      · rename_i hc
        rw [if_pos hc]
        exact ⟨_, _, _, h, rfl⟩
      · rename_i hc
        rw [if_neg hc]
        split at h
        · rename_i hmark
          rw [if_pos hmark]
          exact ⟨_, _, _, h, rfl⟩
        · rename_i hmark
          rw [if_neg hmark]
          exact ⟨_, _, _, h, rfl⟩
  | plain =>
      simp only [tagEnd?] at h
      simp only [Attr.next]
      split at h
      · rename_i hc
        rw [if_pos hc]
        exact .inr ⟨_, _, _, h, rfl⟩
      · rename_i hc
        rw [if_neg hc]
        split at h
        · exact .inr ⟨_, _, _, h, rfl⟩
        · split at h
          · exact .inr ⟨_, _, _, h, rfl⟩
          · split at h
            · rename_i hend
              obtain ⟨rfl, _⟩ := hend
              obtain rfl := Option.some.inj h
              exact .inl ⟨rfl, rfl, rfl⟩
            · split at h
              · cases h
              · exact .inr ⟨_, _, _, h, rfl⟩

/-- **What the search passes over, it counts the line feeds of, except for the escaped ones.** -/
theorem tagEnd?_eq_some (h : tagEnd? a d last n s = some e) :
    ∃ attributes, s = attributes ++ '>' :: e.rest ∧
      e.newlines + escapedFeeds a attributes = n + newlines attributes := by
  induction s generalizing a d last n with
  | nil => cases h
  | cons c s ih =>
      rcases tagEnd?_cons h with ⟨rfl, rfl, rfl⟩ | ⟨d', last', n', h', hn⟩
      · exact ⟨[], rfl, rfl⟩
      · obtain ⟨attributes, rfl, he⟩ := ih h'
        refine ⟨c :: attributes, rfl, ?_⟩
        rw [newlines_cons, escapedFeeds, Nat.add_comm (newlines attributes), ← Nat.add_assoc]
        by_cases hc : c = '\n'
        · rw [if_pos hc] at hn ⊢
          omega
        · rw [if_neg hc] at hn ⊢
          omega

/-! ## Pieces of a text -/

/-- What one move of the scan reads. -/
inductive Piece where
  /-- A character that belongs to no tag of a component. -/
  | aside (c : Char)
  | closing (name : List Char)
  /-- An opening tag: its name, and what stands between that and its `>`. -/
  | opening (name attributes : List Char) (selfClosing : Bool)
  /-- An opening tag that has no end; all that follows its name is passed over. -/
  | endless (name rest : List Char)

namespace Piece

def text : Piece → List Char
  | aside c => [c]
  | closing name => '<' :: '/' :: name
  | opening name attributes _ => '<' :: (name ++ attributes ++ ['>'])
  | endless name rest => '<' :: (name ++ rest)

/-- The event of a piece that begins on a line. -/
def events (line : Nat) : Piece → List TagEvent
  | aside _ => []
  | closing name => if isComponentName name then [.closed name] else []
  | opening name _ selfClosing => if selfClosing then [] else [.opened name line]
  | endless name _ => [.opened name line]

/-- The line feeds of a piece that are not counted. -/
def hidden : Piece → Nat
  | opening _ attributes _ => escapedFeeds .plain attributes
  | _ => 0

/-- The line feeds of a piece that are counted. -/
def counted (p : Piece) : Nat := newlines p.text - p.hidden

end Piece

/-- The text that pieces make up. -/
def textOf (ps : List Piece) : List Char := ps.flatMap Piece.text

theorem textOf_cons (p : Piece) (ps : List Piece) : textOf (p :: ps) = p.text ++ textOf ps := rfl

theorem textOf_append (ps qs : List Piece) : textOf (ps ++ qs) = textOf ps ++ textOf qs :=
  List.flatMap_append

/-- The line feeds in pieces that are not counted. -/
def hiddenIn : List Piece → Nat
  | [] => 0
  | p :: ps => p.hidden + hiddenIn ps

/-- The events of pieces, the first of which begins on a line. -/
def eventsFrom (line : Nat) : List Piece → List TagEvent
  | [] => []
  | p :: ps => p.events line ++ eventsFrom (line + p.counted) ps

/-! ## The moves of the scan -/

/-- A place of the scan: whether it is in a comment, the character before it, and what follows. -/
structure Place where
  inComment : Bool
  prev : Char
  rest : List Char

namespace Place

def start (s : List Char) : Place := ⟨false, ' ', s⟩

/-- What is left to be read for tags. A comment is passed over up to the end of its line. -/
def unread (x : Place) : List Char := if x.inComment then x.rest.dropWhile (· ≠ '\n') else x.rest

end Place

/-- Whether a `<` behind one character and before a text opens a tag of a component. -/
def opensTag (prev : Char) (s : List Char) : Bool :=
  !isTagNamePart prev && isComponentName (s.takeWhile isTagNamePart) &&
    !isTypeParameter (s.dropWhile isTagNamePart)

/-- One move of the scan from place to place. -/
inductive Move : Place → Piece → Place → Prop where
  | feed {inComment : Bool} {prev : Char} {s : List Char} :
      Move ⟨inComment, prev, '\n' :: s⟩ (.aside '\n') ⟨false, '\n', s⟩
  | comment {c prev : Char} {s : List Char} : c ≠ '\n' →
      Move ⟨true, prev, c :: s⟩ (.aside c) ⟨true, prev, s⟩
  | slashes {prev : Char} {s : List Char} :
      Move ⟨false, prev, '/' :: '/' :: s⟩ (.aside '/') ⟨true, '/', '/' :: s⟩
  | other {c prev : Char} {s : List Char} : c ≠ '\n' → c ≠ '<' →
      ¬(c = '/' ∧ s.head? = some '/') → Move ⟨false, prev, c :: s⟩ (.aside c) ⟨false, c, s⟩
  | less {prev : Char} {s : List Char} : s.head? ≠ some '/' → opensTag prev s = false →
      Move ⟨false, prev, '<' :: s⟩ (.aside '<') ⟨false, '<', s⟩
  | closing {prev : Char} {s : List Char} :
      Move ⟨false, prev, '<' :: '/' :: s⟩ (.closing (s.takeWhile isTagNamePart))
        ⟨false, (s.takeWhile isTagNamePart).getLast?.getD '/', s.dropWhile isTagNamePart⟩
  | opening {prev : Char} {s attributes : List Char} {e : TagEnd} : opensTag prev s = true →
      tagEnd? .plain 0 ' ' 0 (s.dropWhile isTagNamePart) = some e →
      s.dropWhile isTagNamePart = attributes ++ '>' :: e.rest →
      Move ⟨false, prev, '<' :: s⟩ (.opening (s.takeWhile isTagNamePart) attributes e.selfClosing)
        ⟨false, '>', e.rest⟩
  | endless {prev : Char} {s : List Char} : opensTag prev s = true →
      tagEnd? .plain 0 ' ' 0 (s.dropWhile isTagNamePart) = none →
      Move ⟨false, prev, '<' :: s⟩
        (.endless (s.takeWhile isTagNamePart) (s.dropWhile isTagNamePart)) ⟨false, '<', []⟩

variable {x y z : Place} {p : Piece} {ps qs : List Piece}

theorem Move.text_eq (h : Move x p y) : x.rest = p.text ++ y.rest := by
  cases h with
  | feed | comment | slashes | other | less => rfl
  | closing | endless => simp [Piece.text]
  | @opening _ s attributes e _ _ hs =>
      have := List.takeWhile_append_dropWhile (p := isTagNamePart) (l := s)
      rw [hs] at this
      simpa [Piece.text] using this.symm

/-- A name has no line feed. -/
theorem newlines_name (s : List Char) : newlines (s.takeWhile isTagNamePart) = 0 := by
  refine List.count_eq_zero.mpr fun hmem => ?_
  have := List.all_eq_true.mp List.all_takeWhile _ hmem
  revert this
  decide

theorem counted_closing (s : List Char) :
    (Piece.closing (s.takeWhile isTagNamePart)).counted = 0 := by
  rw [Piece.counted, Piece.text, newlines_cons, newlines_cons, newlines_name]
  rfl

/-- Of an opening tag the line feeds are counted that the search for its end counted. -/
theorem counted_opening (h : tagEnd? .plain 0 ' ' 0 (s.dropWhile isTagNamePart) = some e)
    (hs : s.dropWhile isTagNamePart = t ++ '>' :: e.rest) (selfClosing : Bool) :
    (Piece.opening (s.takeWhile isTagNamePart) t selfClosing).counted = e.newlines := by
  obtain ⟨t', ht, he⟩ := tagEnd?_eq_some h
  obtain rfl : t = t' := List.append_cancel_right (hs.symm.trans ht)
  have hfeeds : newlines (Piece.opening (s.takeWhile isTagNamePart) t selfClosing).text = newlines t := by
    simp [Piece.text, newlines_cons, newlines_name]
  rw [Piece.counted, hfeeds, Piece.hidden]
  omega

theorem head?_ne_of_opensTag (h : opensTag prev s = true) : s.head? ≠ some '/' := by
  intro hs
  obtain ⟨t, rfl⟩ := List.head?_eq_some_iff.mp hs
  revert h
  simp [opensTag, isComponentName, show isTagNamePart '/' = false by decide]

theorem tagEvents_less (h : s.head? ≠ some '/') :
    tagEvents (n + 1) prev line ('<' :: s) =
      if opensTag prev s then
        match tagEnd? .plain 0 ' ' 0 (s.dropWhile isTagNamePart) with
        | none => [.opened (s.takeWhile isTagNamePart) line]
        | some e =>
          (if e.selfClosing then [] else [.opened (s.takeWhile isTagNamePart) line]) ++
            tagEvents n '>' (line + e.newlines) e.rest
      else tagEvents n '<' line s := by
  have hopens : (isTagNamePart prev || !isComponentName (s.takeWhile isTagNamePart) ||
      isTypeParameter (s.dropWhile isTagNamePart)) = !opensTag prev s := by
    simp [opensTag]
  rw [tagEvents, if_neg (by decide), if_neg (by simp), if_neg (by simp), if_neg h]
  dsimp only
  rw [hopens]
  cases opensTag prev s <;> rfl

/-- Fuel for a text with a first character is left for the rest of it. -/
theorem exists_fuel (h : (c :: s).length ≤ n) : ∃ m, n = m + 1 ∧ s.length ≤ m := by
  obtain ⟨m, rfl⟩ := Nat.exists_eq_add_one_of_ne_zero (Nat.ne_of_gt (Nat.lt_of_lt_of_le (Nat.succ_pos _) h))
  exact ⟨m, rfl, Nat.le_of_succ_le_succ h⟩

/-- **The scan reads what a move reads**, and goes on from the place of the move. -/
theorem Move.tagEvents_eq (h : Move x p y) (line : Nat) (hn : x.unread.length ≤ n) :
    ∃ m, y.unread.length ≤ m ∧
      tagEvents n x.prev line x.unread =
        p.events line ++ tagEvents m y.prev (line + p.counted) y.unread := by
  cases h with
  | @feed inComment prev s =>
      have hx : (Place.mk inComment prev ('\n' :: s)).unread = '\n' :: s := by
        cases inComment <;> rfl
      rw [hx] at hn ⊢
      obtain ⟨m, rfl, hm⟩ := exists_fuel hn
      refine ⟨m, hm, ?_⟩
      rw [tagEvents, if_pos rfl]
      rfl
  | @comment c prev s hc =>
      have hx : (Place.mk true prev (c :: s)).unread = (Place.mk true prev s).unread := by
        simp [Place.unread, hc]
      have hcounted : (Piece.aside c).counted = 0 := by simp [Piece.counted, Piece.text, newlines_cons, hc]
      -- the scan dropped the whole comment before, so it does not move here
      exact ⟨n, hx ▸ hn, by rw [hx, hcounted]; rfl⟩
  | @slashes prev s =>
      obtain ⟨m, rfl, hm⟩ := exists_fuel hn
      refine ⟨m, ?_, ?_⟩
      · exact Nat.le_trans (List.dropWhile_sublist _).length_le hm
      · show tagEvents (m + 1) prev line ('/' :: '/' :: s) = _
        rw [tagEvents, if_neg (by decide), if_pos ⟨rfl, rfl⟩]
        rfl
  | @other c prev s hfeed hless hslash =>
      obtain ⟨m, rfl, hm⟩ := exists_fuel hn
      refine ⟨m, hm, ?_⟩
      have hcounted : (Piece.aside c).counted = 0 := by
        simp [Piece.counted, Piece.text, newlines_cons, hfeed]
      show tagEvents (m + 1) prev line (c :: s) = _
      rw [tagEvents, if_neg hfeed, if_neg hslash, if_pos hless, hcounted]
      rfl
  | @less prev s hslash hopens =>
      obtain ⟨m, rfl, hm⟩ := exists_fuel hn
      refine ⟨m, hm, ?_⟩
      exact (tagEvents_less hslash).trans (if_neg (Bool.eq_false_iff.mp hopens))
  | @closing prev s =>
      obtain ⟨m, rfl, hm⟩ := exists_fuel hn
      refine ⟨m, ?_, ?_⟩
      · have := (List.dropWhile_sublist (l := s) isTagNamePart).length_le
        have : s.length + 1 ≤ m := hm
        show (s.dropWhile isTagNamePart).length ≤ m
        omega
      · show tagEvents (m + 1) prev line ('<' :: '/' :: s) = _
        rw [tagEvents, if_neg (by decide), if_neg (by simp), if_neg (by simp), if_pos (by simp),
          counted_closing]
        rfl
  | @opening prev s attributes e hopens he hs =>
      obtain ⟨m, rfl, hm⟩ := exists_fuel hn
      refine ⟨m, ?_, ?_⟩
      · have hle := (List.dropWhile_sublist (l := s) isTagNamePart).length_le
        have : s.length ≤ m := hm
        rw [hs, List.length_append, List.length_cons] at hle
        show e.rest.length ≤ m
        omega
      · refine (tagEvents_less (head?_ne_of_opensTag hopens)).trans ?_
        rw [if_pos hopens, he, counted_opening he hs]
        rfl
  | @endless prev s hopens he =>
      obtain ⟨m, rfl, -⟩ := exists_fuel hn
      refine ⟨m, Nat.zero_le _, ?_⟩
      refine (tagEvents_less (head?_ne_of_opensTag hopens)).trans ?_
      rw [if_pos hopens, he]
      cases m <;> rfl

/-- **From every place but the end there is a move.** -/
theorem exists_move (x : Place) (h : x.rest ≠ []) : ∃ p y, Move x p y := by
  obtain ⟨inComment, prev, rest⟩ := x
  match inComment, rest with
  | _, [] => exact absurd rfl h
  | inComment, c :: s =>
      by_cases hfeed : c = '\n'
      · exact hfeed ▸ ⟨_, _, .feed⟩
      cases inComment with
      | true => exact ⟨_, _, .comment hfeed⟩
      | false =>
          by_cases hslash : c = '/' ∧ s.head? = some '/'
          · obtain ⟨rfl, hs⟩ := hslash
            obtain ⟨t, rfl⟩ := List.head?_eq_some_iff.mp hs
            exact ⟨_, _, .slashes⟩
          by_cases hless : c = '<'
          · subst hless
            by_cases hs : s.head? = some '/'
            · obtain ⟨t, rfl⟩ := List.head?_eq_some_iff.mp hs
              exact ⟨_, _, .closing⟩
            cases hopens : opensTag prev s with
            | false => exact ⟨_, _, .less hs hopens⟩
            | true =>
                cases he : tagEnd? .plain 0 ' ' 0 (s.dropWhile isTagNamePart) with
                | none => exact ⟨_, _, .endless hopens he⟩
                | some e =>
                    obtain ⟨attributes, hrest, _⟩ := tagEnd?_eq_some he
                    exact ⟨_, _, .opening hopens he hrest⟩
          · exact ⟨_, _, .other hfeed hless hslash⟩

/-! ## A whole text -/

/-- Some moves of the scan, one after the other, and the pieces that they read. -/
inductive Reads : Place → List Piece → Place → Prop where
  | done {x : Place} : Reads x [] x
  | move {x y z : Place} {p : Piece} {ps : List Piece} : Move x p y → Reads y ps z →
      Reads x (p :: ps) z

namespace Reads

theorem one (h : Move x p y) : Reads x [p] y := .move h .done

theorem append (h : Reads x ps y) (h' : Reads y qs z) : Reads x (ps ++ qs) z := by
  induction h with
  | done => exact h'
  | move hm _ ih => exact .move hm (ih h')

/-- **The pieces make up the text.** -/
theorem text_eq (h : Reads x ps y) : x.rest = textOf ps ++ y.rest := by
  induction h with
  | done => rfl
  | move hm _ ih => rw [hm.text_eq, ih, textOf_cons, List.append_assoc]

/-- **The events of the scan are those of the pieces that it reads.** -/
theorem tagEvents_eq (h : Reads x ps y) (hy : y.rest = []) (hn : x.unread.length ≤ n) :
    tagEvents n x.prev line x.unread = eventsFrom line ps := by
  induction h generalizing n line with
  | @done x =>
      have hx : x.unread = [] := by
        rw [Place.unread, hy]
        cases x.inComment <;> rfl
      rw [hx]
      cases n <;> rfl
  | move hm _ ih =>
      obtain ⟨m, hm', he⟩ := hm.tagEvents_eq line hn
      rw [he, ih hy hm', eventsFrom]

end Reads

/-- A text as the scan reads it, from its start to its end. -/
def IsReading (s : List Char) (ps : List Piece) : Prop := ∃ y, Reads (.start s) ps y ∧ y.rest = []

/-- **Every text can be read to its end.** -/
theorem exists_isReading (s : List Char) : ∃ ps, IsReading s ps := by
  suffices h : ∀ n x, x.rest.length = n → ∃ ps y, Reads x ps y ∧ y.rest = [] by
    exact h _ (.start s) rfl
  intro n
  induction n using Nat.strongRecOn with
  | ind n ih =>
      intro x hx
      by_cases hrest : x.rest = []
      · exact ⟨[], x, .done, hrest⟩
      · obtain ⟨p, y, hm⟩ := exists_move x hrest
        have hlt : y.rest.length < n := by
          rw [← hx, hm.text_eq, List.length_append]
          have : 0 < p.text.length := by cases p <;> simp [Piece.text]
          omega
        obtain ⟨ps, z, hreads, hz⟩ := ih _ hlt y rfl
        exact ⟨p :: ps, z, .move hm hreads, hz⟩

theorem textOf_reading (h : IsReading s ps) : textOf ps = s := by
  obtain ⟨y, hreads, hy⟩ := h
  have := hreads.text_eq
  rw [hy, List.append_nil] at this
  exact this.symm

theorem tagEvents_reading (h : IsReading s ps) : tagEvents s.length ' ' 1 s = eventsFrom 1 ps := by
  obtain ⟨y, hreads, hy⟩ := h
  exact hreads.tagEvents_eq hy (Nat.le_refl _)

/-! ## The line of an event -/

theorem escapedFeeds_le (a : Attr) (s : List Char) : escapedFeeds a s ≤ newlines s := by
  induction s generalizing a with
  | nil => exact Nat.le_refl _
  | cons c s ih =>
      have := ih (a.next c)
      rw [escapedFeeds, newlines_cons]
      by_cases hc : c = '\n'
      · split <;> simp [hc] at * <;> omega
      · simp [hc]
        omega

theorem counted_add_hidden (p : Piece) : p.counted + p.hidden = newlines p.text := by
  refine Nat.sub_add_cancel ?_
  cases p with
  | opening name attributes selfClosing =>
      have := escapedFeeds_le .plain attributes
      simp only [Piece.hidden, Piece.text, newlines_cons, newlines_append]
      omega
  | aside | closing | endless => exact Nat.zero_le _

/-- A piece that tells of an opening begins with it. -/
theorem text_of_opened {name : List Char} {l : Nat} (h : .opened name l ∈ p.events line) :
    l = line ∧ ∃ tail, p.text = '<' :: (name ++ tail) := by
  cases p with
  | aside => cases h
  | closing =>
      rw [Piece.events] at h
      split at h
      · cases List.mem_singleton.mp h
      · cases h
  | opening name' attributes selfClosing =>
      cases selfClosing with
      | true => cases h
      | false =>
          cases List.mem_singleton.mp h
          exact ⟨rfl, attributes ++ ['>'], by rw [Piece.text, List.append_assoc]⟩
  | endless name' rest =>
      cases List.mem_singleton.mp h
      exact ⟨rfl, rest, rfl⟩

/-- **An opening that the scan tells of stands in the text.** The line told is that of its place, but for
the line feeds hidden before it. -/
theorem exists_piece_of_opened {name : List Char} {l : Nat}
    (h : .opened name l ∈ eventsFrom line ps) :
    ∃ before after tail, ps = before ++ after ∧ textOf after = '<' :: (name ++ tail) ∧
      l + hiddenIn before = line + newlines (textOf before) := by
  induction ps generalizing line with
  | nil => cases h
  | cons p ps ih =>
      rcases List.mem_append.mp h with h | h
      · obtain ⟨rfl, tail, htext⟩ := text_of_opened h
        refine ⟨[], p :: ps, tail ++ textOf ps, rfl, ?_, rfl⟩
        rw [textOf_cons, htext, List.cons_append, List.append_assoc]
      · obtain ⟨before, after, tail, rfl, htext, hl⟩ := ih h
        refine ⟨p :: before, after, tail, rfl, htext, ?_⟩
        have := counted_add_hidden p
        simp only [hiddenIn, textOf_cons, newlines_append] at hl ⊢
        omega

variable {f : Frame}

/-! ## What the stack holds -/

theorem mem_unclosed_step {t : TagStack} {event : TagEvent} (h : f ∈ (t.step event).unclosed) :
    f ∈ t.unclosed ∨ event = .opened f.1 f.2 := by
  cases event with
  | opened name line =>
      simp only [TagStack.step, TagStack.unclosed, List.reverse_cons, List.mem_append] at h ⊢
      rcases h with h | h | h
      · exact .inl (.inl h)
      · exact .inl (.inr h)
      · rw [List.mem_singleton.mp h]
        exact .inr rfl
  | closed name =>
      refine .inl ?_
      simp only [TagStack.step] at h
      split at h
      · exact h
      · rename_i outer hframes
        have hsub : ∀ g ∈ outer, g ∈ t.frames := fun g hg =>
          (List.dropWhile_sublist _).subset (hframes ▸ List.mem_cons_of_mem _ hg)
        simp only [TagStack.unclosed, List.mem_append, List.mem_reverse] at h ⊢
        rcases h with (h | h) | h
        · exact .inl h
        · exact .inr ((List.takeWhile_sublist _).subset h)
        · exact .inr (hsub f h)

/-- A tag that is left open was opened. -/
theorem mem_unclosed {t : TagStack} {events : List TagEvent}
    (h : f ∈ (events.foldl TagStack.step t).unclosed) : f ∈ t.unclosed ∨ .opened f.1 f.2 ∈ events := by
  induction events generalizing t with
  | nil => exact .inl h
  | cons event events ih =>
      rcases ih h with h | h
      · rcases mem_unclosed_step h with h | rfl
        · exact .inl h
        · exact .inr List.mem_cons_self
      · exact .inr (List.mem_cons_of_mem _ h)

theorem opened_of_mem_unclosedTags (h : f ∈ unclosedTags s) :
    .opened f.1 f.2 ∈ tagEvents s.length ' ' 1 s := by
  rcases mem_unclosed (List.mem_mergeSort.mp h) with h | h
  · cases h
  · exact h

/-! ## Line feeds that are not counted -/

/-- A line feed that is not counted stands right behind a backslash. -/
theorem exists_backslash_of_escapedFeeds {a : Attr} (h : escapedFeeds a s ≠ 0) :
    (a.isEscaped ∧ s.head? = some '\n') ∨ ∃ u v, s = u ++ '\\' :: '\n' :: v := by
  induction s generalizing a with
  | nil => exact absurd rfl h
  | cons c s ih =>
      by_cases hc : a.isEscaped = true ∧ c = '\n'
      · exact .inl ⟨hc.1, congrArg some hc.2⟩
      · rw [escapedFeeds, if_neg hc, Nat.zero_add] at h
        rcases ih h with ⟨hescaped, hs⟩ | ⟨u, v, rfl⟩
        · obtain ⟨t, rfl⟩ := List.head?_eq_some_iff.mp hs
          have hback : c = '\\' := by
            cases a with
            | plain =>
                simp only [Attr.next] at hescaped
                split at hescaped <;> cases hescaped
            | quoted mark =>
                simp only [Attr.next] at hescaped
                split at hescaped
                · assumption
                · split at hescaped <;> cases hescaped
            | escaped mark => cases hescaped
          exact .inr ⟨[], t, by rw [hback]; rfl⟩
        · exact .inr ⟨c :: u, v, rfl⟩

theorem exists_backslash_of_hidden (h : hiddenIn ps ≠ 0) :
    ∃ u v, textOf ps = u ++ '\\' :: '\n' :: v := by
  induction ps with
  | nil => exact absurd rfl h
  | cons p ps ih =>
      by_cases hp : p.hidden = 0
      · have : hiddenIn ps ≠ 0 := by
          rw [hiddenIn, hp, Nat.zero_add] at h
          exact h
        obtain ⟨u, v, hu⟩ := ih this
        exact ⟨p.text ++ u, v, by rw [textOf_cons, hu, List.append_assoc]⟩
      · cases p with
        | opening name attributes selfClosing =>
            rcases exists_backslash_of_escapedFeeds hp with ⟨hescaped, _⟩ | ⟨u, v, rfl⟩
            · cases hescaped
            · refine ⟨'<' :: (name ++ u), v ++ '>' :: textOf ps, ?_⟩
              simp [textOf_cons, Piece.text]
        | aside | closing | endless => exact absurd rfl hp

/-! ## Where an unclosed tag stands -/

/-- **Each tag that is reported stands in the text, and its line is that of its `<` less the line feeds
that are escaped in the quoted values of the tags before it.** So the line is exact if no backslash stands
before a line feed there. -/
theorem line_of_unclosed (s : List Char) :
    ∃ ps, IsReading s ps ∧ textOf ps = s ∧ ∀ name line, (name, line) ∈ unclosedTags s →
      ∃ before after tail, ps = before ++ after ∧ s = textOf before ++ '<' :: (name ++ tail) ∧
        line + hiddenIn before = newlines (textOf before) + 1 ∧
        ((¬∃ u v, textOf before = u ++ '\\' :: '\n' :: v) → line = newlines (textOf before) + 1) := by
  obtain ⟨ps, hps⟩ := exists_isReading s
  refine ⟨ps, hps, textOf_reading hps, fun name line h => ?_⟩
  have hevent := opened_of_mem_unclosedTags h
  rw [tagEvents_reading hps] at hevent
  obtain ⟨before, after, tail, hsplit, htext, hline⟩ := exists_piece_of_opened hevent
  refine ⟨before, after, tail, hsplit, ?_, by omega, fun hno => ?_⟩
  · rw [← textOf_reading hps, hsplit, textOf_append, htext]
  · have hhidden : hiddenIn before = 0 :=
      Classical.byContradiction fun hne => hno (exists_backslash_of_hidden hne)
    omega

/-- A component with a template for an attribute, one line feed of which is escaped. -/
def escapedFeed : List Char := "<A t=\x7b\x60x\\\ny\x60\x7d />\n<B>\n".toList

/-- The tag behind it stands on the third line only, but the second line is told. -/
theorem line_of_escapedFeed : unclosedTags escapedFeed = [("B".toList, 2)] ∧
    ∀ before tail, escapedFeed = before ++ '<' :: ("B".toList ++ tail) → newlines before + 1 = 3 := by
  refine ⟨by decide +kernel, fun before tail h => ?_⟩
  have hplaces : ∀ n < escapedFeed.length, "<B".toList.isPrefixOf (escapedFeed.drop n) = true →
      newlines (escapedFeed.take n) + 1 = 3 := by decide +kernel
  have hlt : before.length < escapedFeed.length := by
    rw [h, List.length_append]
    exact Nat.lt_add_of_pos_right (Nat.succ_pos _)
  have hdrop : escapedFeed.drop before.length = '<' :: ("B".toList ++ tail) := by
    rw [h, List.drop_left]
  have htake : escapedFeed.take before.length = before := by
    rw [h, List.take_left]
  rw [← htake]
  exact hplaces _ hlt (by rw [hdrop]; rfl)

end AppMend.Check
