import AppMend.Check.Strings

/-!
# The scan for open strings is a lexer

A lexer goes through a whole text in one pass and knows of code, strings, templates and comments
(`Lexer.run`). The scan goes through the lines of the text one by one, and keeps only whether a template or a
block comment is open. Within a line it stands where the lexer does (`spot_run`), the lines it skips are
comments to the lexer (`mode_run_commentLine`), and what it keeps is what goes on behind the end of a line.
So one line of the scan is one line of the lexer (`openStringsFrom_line`), and by induction on the text it
lists the lines at whose end the lexer is in a quoted string (`unterminatedStrings_lexed`).

In one thing the scan is not that lexer. It also skips a line in code that begins with a star, as one that
goes on with a comment would. But within a comment the scan skips no line, so the line is one of code: a
product over two lines, say. If it leaves a string open, that is not told, and if it opens a template or a
block comment, the lines behind it are misread.
-/

namespace AppMend.Check

open Text

/-! ## The lexer -/

inductive Quote where
  | single
  | double
deriving DecidableEq

def Quote.mark : Quote → Char
  | single => '\''
  | double => '"'

/-- What a character of a text is part of. -/
inductive Mode where
  | code
  | quoted (quote : Quote)
  | template
  | blockComment
  | lineComment
deriving DecidableEq

/-- A state of the lexer. The next character is taken if the one before it has already told what it is:
behind a backslash, and as the second one of what opens or closes a block comment. A line is fresh as long
as it has only blanks. -/
structure Lexer where
  mode : Mode
  isTaken : Bool
  isFresh : Bool
deriving DecidableEq

/-- What goes on behind the end of a line: templates and block comments. -/
def Mode.carried : Mode → Mode
  | template => template
  | blockComment => blockComment
  | _ => code

def Mode.isQuoted : Mode → Bool
  | quoted _ => true
  | _ => false

namespace Lexer

/-- At the beginning of a line. -/
def start (mode : Mode) : Lexer := ⟨mode, false, true⟩

/-- Between two letters a single quote is an apostrophe. -/
def isApostrophe (prev : Char) (next : Option Char) : Bool := isLetter prev && next.any isLetter

/-- Takes in a character that is not taken, and ends no line. With `starred` a star that is the first on a
line in code opens a comment up to the end of the line. -/
def read (starred : Bool) (prev c : Char) (next : Option Char) (x : Lexer) : Mode × Bool :=
  match x.mode with
  | .lineComment => (.lineComment, false)
  | .quoted quote =>
    if c = '\\' then (.quoted quote, true) else if c = quote.mark then (.code, false)
    else (.quoted quote, false)
  | .template =>
    if c = '\\' then (.template, true) else if c = Char.ofNat 96 then (.code, false)
    else (.template, false)
  | .blockComment => if c = '*' ∧ next = some '/' then (.code, true) else (.blockComment, false)
  | .code =>
    if c = '/' ∧ next = some '/' then (.lineComment, false)
    else if c = '/' ∧ next = some '*' then (.blockComment, true)
    else if c = Char.ofNat 96 then (.template, false)
    else if c = '\'' ∧ isApostrophe prev next = false then (.quoted .single, false)
    else if c = '"' then (.quoted .double, false)
    else if starred ∧ x.isFresh ∧ c = '*' then (.lineComment, false)
    else (.code, false)

/-- Takes in one character, between the one before it and the one after it. -/
def step (starred : Bool) (prev c : Char) (next : Option Char) (x : Lexer) : Lexer :=
  if c = '\n' then start x.mode.carried
  else if x.isTaken then ⟨x.mode, false, false⟩
  else
    let (mode, isTaken) := x.read starred prev c next
    ⟨mode, isTaken, x.isFresh && isBlank c⟩

/-- Goes through a text. -/
def run (starred : Bool) (x : Lexer) (prev : Char) : List Char → Lexer
  | [] => x
  | c :: s => run starred (x.step starred prev c s.head?) c s

end Lexer

/-- The state of the lexer behind the beginning of a text. -/
def lexed (starred : Bool) (s : List Char) : Lexer := Lexer.run starred (.start .code) '\n' s

/-- At the end of a line of a text the lexer is in a quoted string. -/
def IsOpenAt (starred : Bool) (s : List Char) (n : Nat) : Prop :=
  ∃ pre post, s = pre ++ post ∧ (∀ c ∈ post.head?, c = '\n') ∧ newlines pre + 1 = n ∧
    (lexed starred pre).mode.isQuoted = true

/-- A line whose first character, but for blanks, is a star. -/
def isStarLine (line : List Char) : Bool := (line.dropWhile isBlank).head? == some '*'

/-- A mode that leaves code behind the end of the line. -/
def Mode.endsInCode (mode : Mode) : Bool := mode == .code || mode == .lineComment

/-- A line that begins in some mode: if it begins with a star, and in code, it leaves code. -/
def isHarmless (mode : Mode) (line : List Char) : Bool :=
  !(mode == .code && isStarLine line) || (Lexer.run false (.start mode) '\n' line).mode.endsInCode

/-- So are all of some lines, the first of which begins in some mode. -/
def areHarmless (mode : Mode) : List (List Char) → Bool
  | [] => true
  | line :: rest =>
    isHarmless mode line && areHarmless (Lexer.run false (.start mode) '\n' line).mode.carried rest

/-- No line of a text that begins with a star, and in code, leaves a string, a template or a block comment
open. -/
def starsAreHarmless (s : List Char) : Bool := areHarmless .code (lines s)

variable {x : Lexer} {s u v line : List Char} {c prev : Char} {next : Option Char} {starred : Bool}
  {n k : Nat}

/-! ## Through one line -/

/-- A character that tells the lexer nothing of what stands before it. -/
def isApart (c : Char) : Bool := c != '/' && c != '*' && !isLetter c

theorem read_apart (h : ∀ d ∈ next, isApart d = true) :
    x.read starred prev c next = x.read starred prev c none := by
  cases next with
  | none => rfl
  | some d =>
      have hd := h d rfl
      simp only [isApart, Bool.and_eq_true, bne_iff_ne, ne_eq, Bool.not_eq_true'] at hd
      obtain ⟨⟨hslash, hstar⟩, hletter⟩ := hd
      simp [Lexer.read, Lexer.isApostrophe, hslash, hstar, hletter]

theorem step_apart (h : ∀ d ∈ next, isApart d = true) :
    x.step starred prev c next = x.step starred prev c none := by
  rw [Lexer.step, Lexer.step, read_apart h]

/-- **The lexer goes through one text and then through another**, unless it has to look ahead. -/
theorem run_append (hc : isApart c = true) (x : Lexer) (prev : Char) (u v : List Char) :
    Lexer.run starred x prev (u ++ c :: v) =
      Lexer.run starred (Lexer.run starred x prev u) (u.getLast?.getD prev) (c :: v) := by
  induction u generalizing x prev with
  | nil => rfl
  | cons d u ih =>
      have hlast : (d :: u).getLast?.getD prev = u.getLast?.getD d := by rw [List.getLast?_cons]; rfl
      have hstep : x.step starred prev d (u ++ c :: v).head? = x.step starred prev d u.head? := by
        cases u with
        | nil => exact step_apart fun e he => Option.some.inj he ▸ hc
        | cons => rfl
      rw [hlast, List.cons_append, Lexer.run, hstep, ih, ← Lexer.run]

/-- Where the scan of a line stands, by what a character is part of and whether the next one is taken. -/
def spotOf : Mode × Bool → Spot
  | (.code, false) => .code
  | (.code, true) => .blockClosing
  | (.quoted quote, false) => .quoted quote.mark
  | (.quoted quote, true) => .quotedEscape quote.mark
  | (.template, false) => .template
  | (.template, true) => .templateEscape
  | (.blockComment, false) => .blockComment
  | (.blockComment, true) => .blockOpening
  | (.lineComment, _) => .lineComment

def Lexer.spot (x : Lexer) : Spot := spotOf (x.mode, x.isTaken)

variable {prev' : Option Char}

/-- The lexer reads a character as the scan does, but for a star that begins a line. -/
theorem spotOf_read (hprev : isLetter prev = (prev'.map isLetter).getD false) {mode : Mode} {isFresh : Bool}
    (hstar : isFresh = true → mode = .code → starred = true → c ≠ '*') :
    spotOf (Lexer.read starred prev c next ⟨mode, false, isFresh⟩) =
      (spotOf (mode, false)).step prev' c next := by
  cases mode with
  | lineComment => rfl
  | quoted | template | blockComment =>
      rw [Lexer.read]
      simp only [apply_ite spotOf]
      rfl
  | code =>
      have hstar' : ¬(starred = true ∧ isFresh = true ∧ c = '*') := fun ⟨hs, hf, hc⟩ => hstar hf rfl hs hc
      have hopens : Spot.opens '\'' prev' next = !Lexer.isApostrophe prev next := by
        rw [Spot.opens, Lexer.isApostrophe, hprev]
        cases next <;> rfl
      rw [Lexer.read]
      simp only [apply_ite spotOf, hstar', if_false]
      simp only [spotOf, Spot.step]
      by_cases hsingle : c = '\''
      · subst hsingle
        rw [hopens]
        cases Lexer.isApostrophe prev next <;> rfl
      by_cases hdouble : c = '"'
      · subst hdouble
        rfl
      simp [hsingle, hdouble]

theorem spot_step (hfeed : c ≠ '\n') (hprev : isLetter prev = (prev'.map isLetter).getD false)
    (hstar : x.isFresh = true → x.spot = .code → starred = true → c ≠ '*') :
    (x.step starred prev c next).spot = x.spot.step prev' c next := by
  obtain ⟨mode, isTaken, isFresh⟩ := x
  rw [Lexer.step, if_neg hfeed]
  cases isTaken with
  | true => cases mode <;> rfl
  | false => exact spotOf_read hprev fun hfresh hmode => hstar hfresh (hmode ▸ rfl)

/-- A line that is fresh behind a character was so before it, and the character is a blank. -/
theorem fresh_step (hfeed : c ≠ '\n') (hfresh : (x.step starred prev c next).isFresh = true)
    (hcode : (x.step starred prev c next).spot = .code) :
    x.isFresh = true ∧ x.spot = .code ∧ isBlank c = true := by
  obtain ⟨mode, isTaken, isFresh⟩ := x
  rw [Lexer.step, if_neg hfeed] at hfresh hcode
  cases isTaken with
  | true => cases hfresh
  | false =>
      obtain ⟨hfresh', hblank⟩ := Bool.and_eq_true_iff.mp hfresh
      have hne : ∀ d, isBlank d = false → c ≠ d := by
        rintro d hd rfl
        exact Bool.false_ne_true (hd.symm.trans hblank)
      refine ⟨hfresh', ?_, hblank⟩
      cases mode with
      | code => rfl
      | quoted quote =>
          have hmark : c ≠ quote.mark := hne _ (by cases quote <;> decide)
          simp [Lexer.read, Lexer.spot, spotOf, hne '\\' (by decide), hmark] at hcode
      | template =>
          simp [Lexer.read, Lexer.spot, spotOf, hne '\\' (by decide),
            hne (Char.ofNat 96) (by decide)] at hcode
      | blockComment => simp [Lexer.read, Lexer.spot, spotOf, hne '*' (by decide)] at hcode
      | lineComment => simp [Lexer.read, Lexer.spot, spotOf] at hcode

theorem spot_run (hline : '\n' ∉ line) (hprev : isLetter prev = (prev'.map isLetter).getD false)
    (hstar : x.isFresh = true → x.spot = .code → starred = true → isStarLine line = false) :
    (Lexer.run starred x prev line).spot = x.spot.scan prev' line := by
  induction line generalizing x prev prev' with
  | nil => rfl
  | cons c s ih =>
      rw [List.mem_cons, not_or] at hline
      have hc : x.isFresh = true → x.spot = .code → starred = true → c ≠ '*' := by
        rintro hfresh hcode hstarred rfl
        have := hstar hfresh hcode hstarred
        revert this
        simp [isStarLine, show isBlank '*' = false by decide]
      rw [Lexer.run, Spot.scan, ← spot_step (Ne.symm hline.1) hprev hc]
      refine ih hline.2 rfl fun hfresh hcode hstarred => ?_
      obtain ⟨hfresh', hcode', hblank⟩ := fresh_step (Ne.symm hline.1) hfresh hcode
      have := hstar hfresh' hcode' hstarred
      rwa [isStarLine, List.dropWhile_cons_of_pos hblank] at this

/-! ## From line to line -/

theorem isQuoted_spot (x : Lexer) : x.spot.isQuoted = x.mode.isQuoted := by
  obtain ⟨mode, isTaken, isFresh⟩ := x
  cases mode <;> cases isTaken <;> rfl

theorem carry_spot (x : Lexer) : x.spot.carry = (Lexer.start x.mode.carried).spot := by
  obtain ⟨mode, isTaken, isFresh⟩ := x
  cases mode <;> cases isTaken <;> rfl

theorem lineComment_run (h : x.mode = .lineComment) (hline : '\n' ∉ line) :
    (Lexer.run starred x prev line).mode = .lineComment := by
  induction line generalizing x prev with
  | nil => exact h
  | cons c s ih =>
      rw [List.mem_cons, not_or] at hline
      refine ih ?_ hline.2
      rw [Lexer.step, if_neg (Ne.symm hline.1)]
      split
      · exact h
      · rw [Lexer.read, h]

/-- Blanks at the beginning of a line in code leave the line fresh. -/
theorem exists_run_dropWhile (starred : Bool) (hline : '\n' ∉ line) (prev : Char) :
    ∃ prev', Lexer.run starred (.start .code) prev line =
      Lexer.run starred (.start .code) prev' (line.dropWhile isBlank) := by
  induction line generalizing prev with
  | nil => exact ⟨prev, rfl⟩
  | cons c s ih =>
      rw [List.mem_cons, not_or] at hline
      cases hblank : isBlank c with
      | false => exact ⟨prev, by rw [List.dropWhile_cons_of_neg (Bool.eq_false_iff.mp hblank)]⟩
      | true =>
          have hne : ∀ d, isBlank d = false → c ≠ d := by
            rintro d hd rfl
            exact Bool.false_ne_true (hd.symm.trans hblank)
          have hstep : (Lexer.start .code).step starred prev c s.head? = .start .code := by
            rw [Lexer.step, if_neg (Ne.symm hline.1)]
            simp [Lexer.read, Lexer.start, hblank, hne '/' (by decide), hne '*' (by decide),
              hne (Char.ofNat 96) (by decide), hne '\'' (by decide), hne '"' (by decide)]
          rw [List.dropWhile_cons_of_pos hblank, Lexer.run, hstep]
          exact ih hline.2 c

theorem isCommentLine_of_isStarLine (h : isStarLine line = true) : isCommentLine line = true := by
  obtain ⟨t, ht⟩ := List.head?_eq_some_iff.mp (beq_iff_eq.mp h)
  rw [isCommentLine, ht]
  split
  · rfl
  · rfl
  · rename_i hno
    exact absurd rfl (hno t)

/-- **What the scan skips is a comment up to the end of the line**, if stars open one. -/
theorem mode_run_commentLine (hline : '\n' ∉ line) (hcomment : isCommentLine line = true)
    (hstar : isStarLine line = true → starred = true) :
    (Lexer.run starred (.start .code) prev line).mode = .lineComment := by
  obtain ⟨prev', hrun⟩ := exists_run_dropWhile starred hline prev
  rw [hrun]
  have hrest : '\n' ∉ line.dropWhile isBlank := fun h => hline ((List.dropWhile_sublist _).subset h)
  rw [isCommentLine] at hcomment
  rw [isStarLine] at hstar
  generalize line.dropWhile isBlank = rest at *
  split at hcomment
  · rw [Lexer.run]
    exact lineComment_run rfl fun h => hrest (List.mem_cons_of_mem _ h)
  · rw [Lexer.run]
    refine lineComment_run ?_ fun h => hrest (List.mem_cons_of_mem _ h)
    simp [Lexer.step, Lexer.read, Lexer.start, hstar rfl]
  · cases hcomment

/-- A carriage return at the end of a line changes nothing. -/
theorem mode_run_return (x : Lexer) (prev : Char) (line : List Char) :
    (Lexer.run starred x prev (line ++ ['\r'])).mode = (Lexer.run starred x prev line).mode := by
  rw [run_append (by decide)]
  generalize Lexer.run starred x prev line = y
  obtain ⟨mode, isTaken, isFresh⟩ := y
  rw [Lexer.run, Lexer.run, Lexer.step, if_neg (by decide)]
  cases isTaken with
  | true => rfl
  | false =>
      cases mode with
      | quoted quote => cases quote <;> rfl
      | code => simp [Lexer.read]
      | template | blockComment | lineComment => rfl

theorem isQuoted_carried (mode : Mode) : mode.carried.isQuoted = false := by cases mode <;> rfl

theorem isQuoted_of_endsInCode {mode : Mode} (h : mode.endsInCode = true) :
    mode.isQuoted = false ∧ mode.carried = .code := by
  cases mode <;> first | exact ⟨rfl, rfl⟩ | cases h

/-- **One line of the scan is one line of the lexer.** -/
theorem openStringsFrom_cons {mode : Mode} (hline : '\n' ∉ line)
    (hstar : starred = false → isHarmless mode line = true) (n : Nat) (rest : List (List Char)) :
    openStringsFrom n (Lexer.start mode).spot (line :: rest) =
      (if (Lexer.run starred (.start mode) '\n' line).mode.isQuoted then [n] else []) ++
        openStringsFrom (n + 1)
          (Lexer.start (Lexer.run starred (.start mode) '\n' line).mode.carried).spot rest := by
  by_cases hskip : (Lexer.start mode).spot = .code ∧ isCommentLine line = true
  · rw [openStringsFrom, if_pos hskip]
    obtain ⟨hspot, hcomment⟩ := hskip
    obtain rfl : mode = .code := by cases mode <;> first | rfl | cases hspot
    have hends : (Lexer.run starred (.start .code) '\n' line).mode.endsInCode = true := by
      by_cases hstarred : isStarLine line = true → starred = true
      · rw [mode_run_commentLine hline hcomment hstarred]
        rfl
      · obtain ⟨hstarLine, hoff⟩ := Classical.not_imp.mp hstarred
        obtain rfl : starred = false := Bool.not_eq_true _ ▸ hoff
        simpa [isHarmless, hstarLine] using hstar rfl
    rw [(isQuoted_of_endsInCode hends).1, (isQuoted_of_endsInCode hends).2]
    rfl
  · have hscan : (Lexer.run starred (.start mode) '\n' line).spot =
        (Lexer.start mode).spot.scan none line := by
      refine spot_run hline rfl fun _ hcode hstarred => ?_
      cases hstarLine : isStarLine line with
      | false => rfl
      | true => exact absurd ⟨hcode, isCommentLine_of_isStarLine hstarLine⟩ hskip
    rw [openStringsFrom, if_neg hskip, ← hscan]
    dsimp only
    rw [isQuoted_spot, carry_spot]
    split <;> rfl

/-! ## A whole text -/

/-- Up to the end of a line, of a text that begins with one, is up to the end of that line or further. -/
theorem exists_upTo_cons (hline : '\n' ∉ line) {p : List Char → Prop} :
    (∃ pre post, line ++ '\n' :: s = pre ++ post ∧ (∀ c ∈ post.head?, c = '\n') ∧ p pre) ↔
      p line ∨ ∃ pre post, s = pre ++ post ∧ (∀ c ∈ post.head?, c = '\n') ∧ p (line ++ '\n' :: pre) := by
  constructor
  · rintro ⟨pre, post, htext, hpost, hp⟩
    rcases List.append_eq_append_iff.mp htext with ⟨u, rfl, hu⟩ | ⟨u, rfl, rfl⟩
    · cases u with
      | nil => exact .inl (by simpa using hp)
      | cons c u =>
          obtain ⟨rfl, rfl⟩ := List.cons.inj hu
          exact .inr ⟨u, post, rfl, hpost, hp⟩
    · cases u with
      | nil => exact .inl (by simpa using hp)
      | cons c u => exact absurd (by simp [hpost c rfl]) hline
  · rintro (hp | ⟨pre, post, rfl, hpost, hp⟩)
    · exact ⟨line, _, rfl, by simp, hp⟩
    · exact ⟨_, post, by simp, hpost, hp⟩

/-- Up to the end of a line, of a text with one line, is up to its end. -/
theorem exists_upTo_last (hs : '\n' ∉ s) {p : List Char → Prop} :
    (∃ pre post, s = pre ++ post ∧ (∀ c ∈ post.head?, c = '\n') ∧ p pre) ↔ p s := by
  constructor
  · rintro ⟨pre, post, rfl, hpost, hp⟩
    cases post with
    | nil => rwa [List.append_nil]
    | cons c post => exact absurd (by simp [hpost c rfl]) hs
  · exact fun hp => ⟨s, [], (List.append_nil s).symm, by simp, hp⟩

/-- Behind the end of a line the lexer begins another one. -/
theorem run_line (mode : Mode) (line s : List Char) :
    Lexer.run starred (.start mode) '\n' (line ++ '\n' :: s) =
      Lexer.run starred (.start (Lexer.run starred (.start mode) '\n' line).mode.carried) '\n' s := by
  rw [run_append (by decide), Lexer.run, Lexer.step, if_pos rfl]

/-- **The scan lists the lines at whose end the lexer is in a quoted string**, from a place on where a line
begins. -/
theorem mem_openStringsFrom (starred : Bool) (s : List Char) : ∀ (mode : Mode) (n : Nat),
    mode.isQuoted = false → (starred = false → areHarmless mode (lines s) = true) →
    (k ∈ openStringsFrom n (Lexer.start mode).spot (lines s) ↔
      ∃ pre post, s = pre ++ post ∧ (∀ c ∈ post.head?, c = '\n') ∧ n + newlines pre = k ∧
        (Lexer.run starred (.start mode) '\n' pre).mode.isQuoted = true) := by
  -- the induction is on the length of the text, for a step takes a whole line off it
  generalize hlength : s.length = m
  induction m using Nat.strongRecOn generalizing s with
  | ind m ih =>
      intro mode n hmode hharmless
      by_cases hfeed : '\n' ∈ s
      · obtain ⟨line, t, rfl, hline⟩ := List.eq_append_cons_of_mem hfeed
        obtain ⟨l, hl, hlines⟩ := exists_lines_append hline t
        -- a return before the feed is no part of the line
        have hsame : (Lexer.run starred (.start mode) '\n' line).mode =
            (Lexer.run starred (.start mode) '\n' l).mode := by
          rcases hl with rfl | rfl
          · rfl
          · exact mode_run_return _ _ _
        have hl' : '\n' ∉ l := by
          rcases hl with rfl | rfl
          · exact hline
          · exact fun h => hline (List.mem_append_left _ h)
        rw [hlines] at hharmless ⊢
        have hrest := ih t.length (by simp [← hlength]; omega) t rfl
          (Lexer.run starred (.start mode) '\n' l).mode.carried (n + 1) (isQuoted_carried _) fun hoff => by
            subst hoff
            exact (Bool.and_eq_true_iff.mp (hharmless rfl)).2
        have hfeeds : newlines line = 0 := List.count_eq_zero.mpr hline
        rw [openStringsFrom_cons hl' fun hoff => (Bool.and_eq_true_iff.mp (hharmless hoff)).1,
          List.mem_append, hrest, exists_upTo_cons hline, hfeeds, ← hsame]
        refine or_congr ?_ (exists_congr fun pre => exists_congr fun post => and_congr_right fun _ =>
          and_congr_right fun _ => ?_)
        · cases (Lexer.run starred (.start mode) '\n' line).mode.isQuoted
          · simp
          · simp [eq_comm]
        · rw [run_line, newlines_append, hfeeds, Nat.zero_add, newlines, newlines, List.count_cons_self,
            Nat.add_assoc, Nat.add_comm 1]
      · have hfeeds : newlines s = 0 := List.count_eq_zero.mpr hfeed
        rw [exists_upTo_last hfeed, hfeeds]
        by_cases hs : s = []
        · subst hs
          simp [lines_nil, openStringsFrom, Lexer.run, Lexer.start, hmode]
        · rw [lines_of_not_mem hfeed hs] at hharmless ⊢
          rw [openStringsFrom_cons hfeed fun hoff => (Bool.and_eq_true_iff.mp (hharmless hoff)).1,
            openStringsFrom]
          cases (Lexer.run starred (.start mode) '\n' s).mode.isQuoted
          · simp
          · simp [eq_comm]

theorem le_of_mem_openStringsFrom {spot : Spot} {ls : List (List Char)} (h : k ∈ openStringsFrom n spot ls) :
    n ≤ k := by
  induction ls generalizing n spot with
  | nil => cases h
  | cons line rest ih =>
      rw [openStringsFrom] at h
      split at h
      · exact Nat.le_of_succ_le (ih h)
      · dsimp only at h
        split at h
        · rcases List.mem_cons.mp h with rfl | h
          · exact Nat.le_refl _
          · exact Nat.le_of_succ_le (ih h)
        · exact Nat.le_of_succ_le (ih h)

theorem pairwise_openStringsFrom (n : Nat) (spot : Spot) (ls : List (List Char)) :
    (openStringsFrom n spot ls).Pairwise (· < ·) := by
  induction ls generalizing n spot with
  | nil => exact .nil
  | cons line rest ih =>
      rw [openStringsFrom]
      split
      · exact ih _ _
      · dsimp only
        split
        · exact List.pairwise_cons.mpr ⟨fun _ => le_of_mem_openStringsFrom, ih _ _⟩
        · exact ih _ _

/-- **The scan is the lexer**, and lists the lines at whose end it is in a quoted string in ascending order;
but a star that is the first on a line in code is taken to open a comment. Without that it is the same
lexer on a text where stars are harmless. -/
theorem unterminatedStrings_lexed (s : List Char) :
    (unterminatedStrings s).Pairwise (· < ·) ∧
    (∀ n, n ∈ unterminatedStrings s ↔ IsOpenAt true s n) ∧
    (starsAreHarmless s = true → ∀ n, n ∈ unterminatedStrings s ↔ IsOpenAt false s n) := by
  have h (starred : Bool) (hharmless : starred = false → starsAreHarmless s = true) (n : Nat) :
      n ∈ unterminatedStrings s ↔ IsOpenAt starred s n := by
    simp only [IsOpenAt, lexed, Nat.add_comm _ 1]
    exact mem_openStringsFrom starred s .code 1 rfl hharmless
  exact ⟨pairwise_openStringsFrom _ _ _, h true (fun h => nomatch h),
    fun hharmless => h false fun _ => hharmless⟩

/-- A comment with an apostrophe, and a product over two lines whose first one leaves a string open. -/
def starredProduct : List Char := "/*\n * it's\n */\nn = 'a\n  * 2\n".toList

theorem isOpenAt_starredProduct :
    starsAreHarmless starredProduct = true ∧ unterminatedStrings starredProduct = [4] ∧
      IsOpenAt false starredProduct 4 :=
  have hharmless : starsAreHarmless starredProduct = true := by decide +kernel
  have hlisted : unterminatedStrings starredProduct = [4] := by decide +kernel
  ⟨hharmless, hlisted,
    ((unterminatedStrings_lexed starredProduct).2.2 hharmless 4).mp (by rw [hlisted]; decide)⟩

/-- A product over two lines whose second one leaves a string open. -/
def starredString : List Char := "const n = 2\n  * 'x\n".toList

/-- The second line is not listed, for it begins with a star. -/
theorem unterminatedStrings_starredString :
    unterminatedStrings starredString = [] ∧ IsOpenAt false starredString 2 ∧
      ¬∀ s n, n ∈ unterminatedStrings s ↔ IsOpenAt false s n := by
  have hnone : unterminatedStrings starredString = [] := by decide +kernel
  have hopen : IsOpenAt false starredString 2 :=
    ⟨"const n = 2\n  * 'x".toList, ['\n'], by decide, by simp, by decide, by decide⟩
  refine ⟨hnone, hopen, fun h => ?_⟩
  have := (h starredString 2).mpr hopen
  rw [hnone] at this
  cases this

end AppMend.Check
