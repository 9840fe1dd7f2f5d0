import AppMend.Proofs.Check.Markup
import AppMend.Proofs.Check.Unclosed

/-!
# Well-nested markup has no unclosed tag

The scan sees a tag of a component unless that stands in what it takes for a comment, or unless an opening
tag stands directly behind a character of a name (`Tag.isSeen`). It takes two slashes for the beginning of a
comment in any text, and also in the values of the tags that it does not see, those of host elements
(`inComment`). Within a tag that it sees it finds neither comments nor other tags.

Markup is legible if no tag that is not seen has another one in a value (`Markup.isLegible`). It is read from
end to end, piece by piece (`Markup.reads`). Its tags match if every closing tag is seen whose opening tag
is, and if a closing tag whose opening tag is not seen is not taken for that of another component
(`Markup.isMatched`). Then each element leaves the open tags around it as they are (`keeps_element`), and
nothing is unclosed in the end. If the opening tags are seen, each closing tag in a comment leaves one tag
(`leaves_element`), so matching is also needed (`unclosedTags_markup`).
-/

namespace AppMend.Check

open Text

/-! ## What of markup the scan sees -/

/-- Whether a comment is open behind a text, if one is open or not before it. Two slashes open one,
wherever they stand, and the end of the line closes it. -/
def inComment : Bool → List Char → Bool
  | isOpen, [] => isOpen
  | isOpen, c :: s => inComment (c ≠ '\n' && (isOpen || c == '/' && s.head? == some '/')) s

/-- Whether the scan takes an opening tag behind some words for one: it has the name of a component, and
stands neither in a comment nor directly behind a character of a name. -/
def Tag.isSeen (t : Tag) (m : Bool) (before : List Char) : Bool :=
  isComponentName t.name && !inComment m before && !isTagNamePart (before.getLast?.getD ' ')

/-- Whether a comment is open behind an opening tag. The scan looks for one in those tags only that it
does not see. -/
def Tag.leavesComment (t : Tag) (m : Bool) (before : List Char) : Bool :=
  !t.isSeen m before && inComment (inComment m before) t.text

/-- Whether a comment is open behind markup. -/
def Markup.leavesComment : Bool → Markup → Bool
  | m, words w => inComment m w
  | m, selfClosing w tag rest => rest.leavesComment (tag.leavesComment m w)
  | m, element w tag children gap rest =>
    rest.leavesComment (inComment (children.leavesComment (tag.leavesComment m w)) gap)

/-- No `<` stands before a capital or a slash, or at the end. -/
def noTags : List Char → Bool
  | [] => true
  | c :: s => (c != '<' || s.head?.any fun d => !d.isUpper && d != '/') && noTags s

/-- The scan sees a tag, or it finds no other one in it. -/
def Tag.isLegible (t : Tag) (m : Bool) (before : List Char) : Bool := t.isSeen m before || noTags t.text

/-- The scan, at the end of the children of an element, sees the closing tag if it has seen the opening
tag. If it has not, it sees no closing tag either, or one of a name that no component has around it. -/
def Tag.isMatched (t : Tag) (around : List (List Char)) (isSeen inside : Bool) : Bool :=
  if isSeen then !inside else !isComponentName t.name || inside || !around.contains t.readName

/-- Every tag of markup is legible. -/
def Markup.isLegible : Bool → Markup → Bool
  | _, words _ => true
  | m, selfClosing w tag rest => tag.isLegible m w && rest.isLegible (tag.leavesComment m w)
  | m, element w tag children gap rest =>
    tag.isLegible m w && children.isLegible (tag.leavesComment m w) &&
      rest.isLegible (inComment (children.leavesComment (tag.leavesComment m w)) gap)

/-- The tags of every element match for the scan, in components of some names. -/
def Markup.isMatched : List (List Char) → Bool → Markup → Bool
  | _, _, words _ => true
  | around, m, selfClosing w tag rest => rest.isMatched around (tag.leavesComment m w)
  | around, m, element w tag children gap rest =>
    let isSeen := tag.isSeen m w
    let inside := children.leavesComment (tag.leavesComment m w)
    children.isMatched (if isSeen then tag.readName :: around else around) (tag.leavesComment m w) &&
      tag.isMatched around isSeen inside && rest.isMatched around (inComment inside gap)

/-- The opening tag of every component that does not close itself is seen. -/
def Markup.isSeen : Bool → Markup → Bool
  | _, words _ => true
  | m, selfClosing w tag rest => rest.isSeen (tag.leavesComment m w)
  | m, element w tag children gap rest =>
    (!isComponentName tag.name || tag.isSeen m w) && children.isSeen (tag.leavesComment m w) &&
      rest.isSeen (inComment (children.leavesComment (tag.leavesComment m w)) gap)

/-- How many closing tags of components stand in a comment. -/
def Markup.hiddenClosings : Bool → Markup → Nat
  | _, words _ => 0
  | m, selfClosing w tag rest => rest.hiddenClosings (tag.leavesComment m w)
  | m, element w tag children gap rest =>
    let inside := children.leavesComment (tag.leavesComment m w)
    children.hiddenClosings (tag.leavesComment m w) +
      (if isComponentName tag.name && inside then 1 else 0) + rest.hiddenClosings (inComment inside gap)

variable {s u v w rest : List Char} {c d prev : Char} {m : Bool} {ps qs : List Piece} {line : Nat}

/-! ## Reading what holds no tag -/

theorem noTags_cons :
    noTags (c :: s) = true ↔ (c = '<' → ∃ d ∈ s.head?, d.isUpper = false ∧ d ≠ '/') ∧ noTags s = true := by
  by_cases hc : c = '<' <;> simp [noTags, hc, Option.any_eq_true]

theorem noTags_append (hu : noTags u = true) (hv : noTags v = true) : noTags (u ++ v) = true := by
  induction u with
  | nil => exact hv
  | cons c u ih =>
      obtain ⟨hless, hu⟩ := noTags_cons.mp hu
      refine noTags_cons.mpr ⟨fun hc => ?_, ih hu⟩
      obtain ⟨d, hmem, hd⟩ := hless hc
      exact ⟨d, by cases u with | nil => cases hmem | cons => exact hmem, hd⟩

theorem noTags_of_forall (h : ∀ c ∈ s, c ≠ '<') : noTags s = true := by
  induction s with
  | nil => rfl
  | cons c s ih =>
      obtain ⟨hc, hs⟩ := List.forall_mem_cons.mp h
      exact noTags_cons.mpr ⟨fun h => absurd h hc, ih hs⟩

theorem opensTag_of_not_upper (hd : d.isUpper = false) : opensTag prev (d :: s) = false := by
  have : isComponentName ((d :: s).takeWhile isTagNamePart) = false := by
    rw [List.takeWhile_cons]
    split
    · exact hd
    · rfl
  rw [opensTag, this, Bool.and_false, Bool.false_and]

/-- Pieces without an event. -/
def Silent (ps : List Piece) : Prop := ∀ line, eventsFrom line ps = []

theorem silent_cons (h : Silent ps) (c : Char) : Silent (.aside c :: ps) := fun _ => h _

/-- **A text without tags of components is read without an event**, up to a place in a comment or not. -/
theorem reads_aside (m : Bool) (prev : Char) (rest : List Char) (hw : noTags w = true)
    (hend : w.getLast? = some '/' → rest.head? ≠ some '/') :
    ∃ ps prev', Reads ⟨m, prev, w ++ rest⟩ ps ⟨inComment m w, prev', rest⟩ ∧ Silent ps ∧
      (inComment m w = false → prev' = w.getLast?.getD prev) := by
  induction w generalizing m prev with
  | nil => exact ⟨[], prev, .done, fun _ => rfl, fun _ => rfl⟩
  | cons c s ih =>
      obtain ⟨hless, hs⟩ := noTags_cons.mp hw
      have hend' : s.getLast? = some '/' → rest.head? ≠ some '/' := by
        intro h
        refine hend ?_
        rw [List.getLast?_cons, h]
        rfl
      -- a move that reads `c` is enough, unless it stays in a comment
      have key : ∀ m', Move ⟨m, prev, c :: (s ++ rest)⟩ (.aside c) ⟨m', c, s ++ rest⟩ →
          m' = (c ≠ '\n' && (m || c == '/' && s.head? == some '/')) →
          ∃ ps prev', Reads ⟨m, prev, c :: (s ++ rest)⟩ ps ⟨inComment m (c :: s), prev', rest⟩ ∧
            Silent ps ∧ (inComment m (c :: s) = false → prev' = (c :: s).getLast?.getD prev) := by
        rintro m' hmove rfl
        obtain ⟨ps, prev', hreads, hsilent, hprev⟩ := ih _ c hs hend'
        refine ⟨_, prev', .move hmove hreads, silent_cons hsilent c, fun h => ?_⟩
        rw [hprev h, List.getLast?_cons]
        rfl
      by_cases hfeed : c = '\n'
      · subst hfeed
        exact key false .feed (by simp)
      cases m with
      | true =>
          have hstate : inComment true (c :: s) = inComment true s := by simp [inComment, hfeed]
          obtain ⟨ps, prev', hreads, hsilent, hprev⟩ := ih true prev hs hend'
          rw [hstate]
          refine ⟨_, prev', .move (.comment hfeed) hreads, silent_cons hsilent c, fun h => ?_⟩
          rw [hprev h, List.getLast?_cons]
          cases s with
          | nil => cases h
          | cons d s => rw [List.getLast?_cons]; rfl
      | false =>
          by_cases hslash : c = '/' ∧ (s ++ rest).head? = some '/'
          · obtain ⟨rfl, hhead⟩ := hslash
            cases s with
            | nil => exact absurd hhead (hend rfl)
            | cons d s =>
                obtain rfl : d = '/' := by simpa using hhead
                exact key true .slashes (by simp)
          · have hstate : false = (decide (c ≠ '\n') && (false || c == '/' && s.head? == some '/')) := by
              cases s with
              | nil => simp
              | cons d s => simpa [hfeed] using hslash
            by_cases hc : c = '<'
            · subst hc
              obtain ⟨d, hmem, hupper, hd⟩ := hless rfl
              obtain ⟨t, rfl⟩ := List.head?_eq_some_iff.mp hmem
              exact key false (.less (by simpa using hd) (opensTag_of_not_upper hupper)) hstate
            · exact key false (.other hfeed hc hslash) hstate

theorem inComment_append (h : u.getLast? = some '/' → v.head? ≠ some '/') :
    inComment m (u ++ v) = inComment (inComment m u) v := by
  induction u generalizing m with
  | nil => rfl
  | cons c u ih =>
      have h' : u.getLast? = some '/' → v.head? ≠ some '/' := fun hu =>
        h (by rw [List.getLast?_cons, hu]; rfl)
      have hstate : (c == '/' && (u ++ v).head? == some '/') = (c == '/' && u.head? == some '/') := by
        cases u with
        | nil => by_cases hc : c = '/' <;> simp_all
        | cons => rfl
      rw [List.cons_append, inComment, inComment, hstate, ih h']

theorem inComment_of_plain (h : ∀ c ∈ u, c ≠ '\n' ∧ c ≠ '/') : inComment m u = m := by
  induction u with
  | nil => rfl
  | cons c u ih =>
      obtain ⟨hc, hu⟩ := List.forall_mem_cons.mp h
      simpa [inComment, hc.1, beq_eq_false_iff_ne.mpr hc.2] using ih hu

/-! ## Reading tags -/

/-- The end of an opening tag. -/
def tagEnding : Bool → List Char
  | true => ['/', '>']
  | false => ['>']

/-- **A tag of a component is read to its end**, whatever its attributes hold. -/
theorem Tag.move (t : Tag) (selfClosing : Bool) (rest : List Char) (hname : isComponentName t.name = true)
    (hprev : isTagNamePart prev = false) : ∃ attributes,
      Move ⟨false, prev, '<' :: (t.text ++ (tagEnding selfClosing ++ rest))⟩
        (.opening t.readName attributes selfClosing) ⟨false, '>', rest⟩ := by
  obtain ⟨c, s, hs, hc⟩ : ∃ c s, tagEnding selfClosing ++ rest = c :: s ∧ (c = '>' ∨ c = '/') := by
    cases selfClosing
    · exact ⟨'>', rest, rfl, .inl rfl⟩
    · exact ⟨'/', '>' :: rest, rfl, .inr rfl⟩
  have hhead : ∀ d ∈ (t.tail ++ c :: s).head?, isTagNamePart d = false :=
    t.head_tail fun d hd => by
      obtain rfl : c = d := by simpa using hd
      rcases hc with rfl | rfl <;> decide
  obtain ⟨htake, hdrop⟩ := takeWhile_name hhead t.name
  have hopens : opensTag prev (t.name ++ (t.tail ++ c :: s)) = true := by
    have hupper : isComponentName (t.name.takeWhile isTagNamePart) = true :=
      t.isComponentName_readName.trans hname
    rw [opensTag, htake, hdrop, t.isTypeParameter_tail hc, hprev, hupper]
    rfl
  obtain ⟨last, n, hlast, hend⟩ := tagEnd?_tail t
  obtain ⟨u, n', he, hu⟩ : ∃ u n', tagEnd? .plain 0 last n (c :: s) = some ⟨selfClosing, n', rest⟩ ∧
      c :: s = u ++ '>' :: rest := by
    rw [← hs]
    cases selfClosing with
    | false => exact ⟨[], n, by simp [tagEnding, tagEnd?, hlast], rfl⟩
    | true => exact ⟨['/'], n, by simp [tagEnding, tagEnd?, isAsciiBlank], rfl⟩
  have hattributes : (t.name ++ (t.tail ++ c :: s)).dropWhile isTagNamePart =
      (t.name.dropWhile isTagNamePart ++ t.tail ++ u) ++ '>' :: rest := by
    rw [hdrop, hu]
    simp
  have hmove := Move.opening (e := ⟨selfClosing, n', rest⟩) hopens (hdrop ▸ (hend _).trans he) hattributes
  rw [htake] at hmove
  rw [hs, Tag.text, List.append_assoc]
  exact ⟨_, hmove⟩

theorem reads_upTo (m : Bool) (prev : Char) (rest : List Char) (hw : noTags w = true) :
    ∃ ps prev', Reads ⟨m, prev, w ++ '>' :: rest⟩ ps ⟨inComment m w, prev', rest⟩ ∧ Silent ps ∧
      (inComment m w = false → prev' = '>') := by
  have hend : noTags (w ++ ['>']) = true := noTags_append hw (noTags_of_forall (by simp))
  obtain ⟨ps, prev', hreads, hsilent, hprev⟩ :=
    reads_aside m prev rest hend (by simp)
  have hstate : inComment m (w ++ ['>']) = inComment m w := by
    rw [inComment_append (by simp)]
    simp [inComment]
  rw [hstate, List.append_assoc] at hreads
  rw [hstate] at hprev
  exact ⟨ps, prev', hreads, hsilent, fun h => by simpa using hprev h⟩

/-- A tag that the scan does not see is passed over like any text. -/
theorem Tag.reads_unseen (t : Tag) (selfClosing : Bool) (rest : List Char) (hno : noTags t.text = true)
    (hunseen : m = false → isTagNamePart prev = true ∨ isComponentName t.name = false) :
    ∃ ps prev', Reads ⟨m, prev, '<' :: (t.text ++ (tagEnding selfClosing ++ rest))⟩ ps
        ⟨inComment m t.text, prev', rest⟩ ∧ Silent ps ∧ (inComment m t.text = false → prev' = '>') := by
  obtain ⟨c, name, hname⟩ := List.exists_cons_of_ne_nil t.name_ne
  have hc : c ≠ '/' := (ne_of_markupName (t.isMarkupName_of_mem c (hname ▸ List.mem_cons_self))).2.2.1
  -- the `<` is passed over first
  obtain ⟨prev₁, hless⟩ : ∃ prev₁, Move ⟨m, prev, '<' :: (t.text ++ (tagEnding selfClosing ++ rest))⟩
      (.aside '<') ⟨m, prev₁, t.text ++ (tagEnding selfClosing ++ rest)⟩ := by
    cases m with
    | true => exact ⟨_, .comment (by decide)⟩
    | false =>
        refine ⟨_, .less (by simpa [Tag.text, hname] using hc) ?_⟩
        rcases hunseen rfl with hpart | hlower
        · simp [opensTag, hpart]
        · rw [hname] at hlower
          rw [Tag.text, hname]
          exact opensTag_of_not_upper hlower
  obtain ⟨w, hw, hno', hstate⟩ : ∃ w, t.text ++ (tagEnding selfClosing ++ rest) = w ++ '>' :: rest ∧
      noTags w = true ∧ inComment m w = inComment m t.text := by
    cases selfClosing with
    | false => exact ⟨t.text, rfl, hno, rfl⟩
    | true =>
        refine ⟨t.text ++ ['/'], by simp [tagEnding], noTags_append hno (noTags_of_forall (by simp)), ?_⟩
        rw [inComment_append fun h => absurd h t.getLast?_text]
        simp [inComment]
  rw [hw] at hless ⊢
  obtain ⟨ps, prev', hreads, hsilent, hprev⟩ := reads_upTo m prev₁ rest hno'
  rw [hstate] at hreads hprev
  exact ⟨_, prev', .move hless hreads, silent_cons hsilent '<', hprev⟩

theorem reads_words (m : Bool) (prev : Char) (w : Words) (rest : List Char) (hrest : rest.head? ≠ some '/') :
    ∃ ps prev', Reads ⟨m, prev, w.val ++ rest⟩ ps ⟨inComment m w, prev', rest⟩ ∧ Silent ps ∧
      (inComment m w = false → prev' = w.val.getLast?.getD prev) :=
  have hless : ∀ c ∈ w.val, c ≠ '<' := fun c hc => by
    rintro rfl
    exact absurd (List.all_eq_true.mp w.property _ hc) (by decide)
  reads_aside m prev rest (noTags_of_forall hless) fun _ => hrest

theorem exists_eventsFrom_append (line : Nat) (ps qs : List Piece) :
    ∃ line', eventsFrom line (ps ++ qs) = eventsFrom line ps ++ eventsFrom line' qs := by
  induction ps generalizing line with
  | nil => exact ⟨line, rfl⟩
  | cons p ps ih =>
      obtain ⟨line', h⟩ := ih (line + p.counted)
      exact ⟨line', by rw [List.cons_append, eventsFrom, h, ← List.append_assoc, eventsFrom]⟩

/-- **An opening tag behind some words is read**, and told of if it is seen and does not close itself. -/
theorem Tag.reads_opening (t : Tag) (w : Words) (selfClosing : Bool) (prev : Char) (rest : List Char)
    (h : t.isLegible m w = true) (hprev : m = false → isTagNamePart prev = false) :
    ∃ ps prev', Reads ⟨m, prev, w.val ++ '<' :: (t.text ++ (tagEnding selfClosing ++ rest))⟩ ps
        ⟨t.leavesComment m w, prev', rest⟩ ∧ (t.leavesComment m w = false → prev' = '>') ∧
      ∀ line, ∃ line', eventsFrom line ps =
        if t.isSeen m w && !selfClosing then [.opened t.readName line'] else [] := by
  obtain ⟨ps₀, prev₀, hreads₀, hsilent₀, hprev₀⟩ :=
    reads_words m prev w ('<' :: (t.text ++ (tagEnding selfClosing ++ rest))) (by simp)
  have hpart₀ : inComment m w = false →
      isTagNamePart prev₀ = isTagNamePart (w.val.getLast?.getD ' ') := by
    intro hcomment
    rw [hprev₀ hcomment]
    cases hlast : w.val.getLast? with
    | some c => rfl
    | none =>
        rw [List.getLast?_eq_none_iff.mp hlast] at hcomment
        exact hprev hcomment
  -- a tag that is seen is one move, and one that is not is passed over piece by piece
  cases hseen : t.isSeen m w with
  | true =>
      have hstate : t.leavesComment m w = false := by rw [Tag.leavesComment, hseen]; rfl
      simp only [Tag.isSeen, Bool.and_eq_true, Bool.not_eq_true'] at hseen
      obtain ⟨⟨hname, hcomment⟩, hpart⟩ := hseen
      obtain ⟨attributes, hmove⟩ :=
        t.move selfClosing rest hname ((hpart₀ hcomment).trans hpart)
      rw [hcomment] at hreads₀
      rw [hstate]
      refine ⟨_, '>', hreads₀.append (.one hmove), fun _ => rfl, fun line => ?_⟩
      obtain ⟨line', he⟩ := exists_eventsFrom_append line ps₀ [.opening t.readName attributes selfClosing]
      rw [he, hsilent₀]
      exact ⟨line', by cases selfClosing <;> rfl⟩
  | false =>
      have hstate : t.leavesComment m w = inComment (inComment m w) t.text := by
        rw [Tag.leavesComment, hseen]; rfl
      have hno : noTags t.text = true := by simpa [Tag.isLegible, hseen] using h
      have hunseen : inComment m w = false →
          isTagNamePart prev₀ = true ∨ isComponentName t.name = false := by
        intro hcomment
        rw [hpart₀ hcomment]
        cases hname : isComponentName t.name with
        | false => exact .inr rfl
        | true => exact .inl (by simpa [Tag.isSeen, hname, hcomment] using hseen)
      obtain ⟨ps, prev', hreads, hsilent, hprev'⟩ :=
        t.reads_unseen selfClosing rest hno hunseen
      rw [hstate]
      refine ⟨_, prev', hreads₀.append hreads, hprev', fun line => ⟨line, ?_⟩⟩
      obtain ⟨line', he⟩ := exists_eventsFrom_append line ps₀ ps
      rw [he, hsilent₀, hsilent]
      rfl

/-- **A closing tag is read**, and told of if it is one of a component and stands in no comment. -/
theorem Tag.reads_closing (t : Tag) (gap : Blanks) (m : Bool) (prev : Char) (rest : List Char) :
    ∃ ps prev', Reads ⟨m, prev, '<' :: '/' :: (t.name ++ (gap.val ++ '>' :: rest))⟩ ps
        ⟨inComment m gap, prev', rest⟩ ∧ (inComment m gap = false → prev' = '>') ∧
      ∀ line, eventsFrom line ps = if isComponentName t.name && !m then [.closed t.readName] else [] := by
  -- in a comment all of the name is left to read, and elsewhere what the scan does not take for the name
  have htail : ∀ u prev, (∀ c ∈ u, c ∈ t.name) → ∃ ps prev',
      Reads ⟨m, prev, u ++ (gap.val ++ '>' :: rest)⟩ ps ⟨inComment m gap, prev', rest⟩ ∧
        Silent ps ∧ (inComment m gap = false → prev' = '>') := by
    intro u prev hu
    have hplain : ∀ c ∈ u, c ≠ '\n' ∧ c ≠ '/' ∧ c ≠ '<' := fun c hc =>
      let ⟨_, hfeed, hslash, hless, _⟩ := ne_of_markupName (t.isMarkupName_of_mem c (hu c hc))
      ⟨hfeed, hslash, hless⟩
    have hno : noTags (u ++ gap.val) = true :=
      noTags_append (noTags_of_forall fun c hc => (hplain c hc).2.2)
        (noTags_of_forall fun c hc => (ne_of_blank (isBlank_of_mem gap c hc)).2)
    have hstate : inComment m (u ++ gap.val) = inComment m gap := by
      rw [inComment_append fun h => absurd rfl (hplain _ (List.mem_of_getLast? h)).2.1,
        inComment_of_plain fun c hc => ⟨(hplain c hc).1, (hplain c hc).2.1⟩]
    have := reads_upTo m prev rest hno
    rwa [hstate, List.append_assoc] at this
  cases m with
  | true =>
      obtain ⟨ps, prev', hreads, hsilent, hprev⟩ := htail t.name prev fun _ hc => hc
      refine ⟨_, prev', .move (.comment (by decide)) (.move (.comment (by decide)) hreads), hprev,
        fun line => ?_⟩
      rw [Bool.not_true, Bool.and_false]
      exact silent_cons (silent_cons hsilent '/') '<' line
  | false =>
      have hhead : ∀ c ∈ (gap.val ++ '>' :: rest).head?, isTagNamePart c = false :=
        head_gap gap fun c hc => by
          obtain rfl : '>' = c := by simpa using hc
          decide
      obtain ⟨htake, hdrop⟩ := takeWhile_name hhead t.name
      obtain ⟨ps, prev', hreads, hsilent, hprev⟩ := htail (t.name.dropWhile isTagNamePart)
        ((t.name.takeWhile isTagNamePart).getLast?.getD '/') fun _ hc => (List.dropWhile_sublist _).subset hc
      have hmove := @Move.closing prev (t.name ++ (gap.val ++ '>' :: rest))
      rw [htake, hdrop] at hmove
      refine ⟨_, prev', .move hmove hreads, hprev, fun line => ?_⟩
      rw [eventsFrom, hsilent, Piece.events, ← t.isComponentName_readName, Tag.readName]
      simp

/-! ## Markup from end to end -/

/-- The events of pieces open and close tags inside those that are open, and leave these as they are. -/
def Keeps (around : List (List Char)) (ps : List Piece) : Prop :=
  ∀ line (t : TagStack), t.frames.map (·.1) = around → (eventsFrom line ps).foldl TagStack.step t = t

variable {around : List (List Char)} {n k : Nat}

theorem Keeps.append (h : Keeps around ps) (h' : Keeps around qs) : Keeps around (ps ++ qs) := by
  intro line t ht
  obtain ⟨line', he⟩ := exists_eventsFrom_append line ps qs
  rw [he, List.foldl_append, h line t ht, h' line' t ht]

theorem keeps_of_silent (h : Silent ps) : Keeps around ps := by
  intro line t _
  rw [h]
  rfl

/-- The events of an element: of its opening tag if that is seen, of its children, and of its closing tag if
that is one of a component and stands in no comment. -/
def IsElement (t : Tag) (isSeen inside : Bool) (children ps : List Piece) : Prop :=
  ∀ line, ∃ line' line₁, eventsFrom line ps =
    (if isSeen then [.opened t.readName line'] else []) ++
      (eventsFrom line₁ children ++ if isComponentName t.name && !inside then [.closed t.readName] else [])

variable {t : Tag} {isSeen inside : Bool} {opening children closing : List Piece}

theorem isElement_of_tags
    (hopening : ∀ line, ∃ line', eventsFrom line opening =
      if isSeen && !false then [.opened t.readName line'] else [])
    (hclosing : ∀ line, eventsFrom line closing =
      if isComponentName t.name && !inside then [.closed t.readName] else []) :
    IsElement t isSeen inside children (opening ++ (children ++ closing)) := by
  intro line
  obtain ⟨line₁, he₁⟩ := exists_eventsFrom_append line opening (children ++ closing)
  obtain ⟨line₂, he₂⟩ := exists_eventsFrom_append line₁ children closing
  obtain ⟨line', hopened⟩ := hopening line
  rw [Bool.not_false, Bool.and_true] at hopened
  exact ⟨line', line₁, by rw [he₁, he₂, hopened, hclosing]⟩

/-- **An element whose children keep the open tags keeps them.** -/
theorem keeps_element (h : IsElement t isSeen inside children ps)
    (hchildren : Keeps (if isSeen then t.readName :: around else around) children)
    (hname : isSeen = true → isComponentName t.name = true)
    (hmatched : t.isMatched around isSeen inside = true) : Keeps around ps := by
  intro line s hs
  obtain ⟨line', line₁, he⟩ := h line
  rw [he, List.foldl_append, List.foldl_append]
  cases isSeen with
  | true =>
      obtain rfl : inside = false := by simpa [Tag.isMatched] using hmatched
      rw [hname rfl]
      simp only [Bool.not_false, Bool.and_self, if_true, List.foldl_cons, List.foldl_nil]
      rw [hchildren line₁ _ (by simp [TagStack.step, hs])]
      have hframes : (s.step (.opened t.readName line')).frames = [] ++ (t.readName, line') :: s.frames := rfl
      rw [step_closed hframes rfl (by simp)]
      simp [TagStack.step]
  | false =>
      simp only [Bool.false_eq_true, if_false, List.foldl_nil]
      rw [hchildren line₁ s hs]
      split
      · rename_i hclosed
        obtain ⟨hcomponent, hinside⟩ := Bool.and_eq_true_iff.mp hclosed
        refine step_ignored fun f hf hfname => ?_
        have hnot : t.readName ∉ around := by
          simpa [Tag.isMatched, hcomponent, (Bool.not_eq_true' _).mp hinside] using hmatched
        exact hnot (by rw [← hs, ← hfname]; exact List.mem_map_of_mem hf)
      · rfl

/-- The events of pieces leave as many tags more than there were, above those that were open. -/
def Leaves (n : Nat) (ps : List Piece) : Prop :=
  ∀ line (t : TagStack), ∃ above, ((eventsFrom line ps).foldl TagStack.step t).frames = above ++ t.frames ∧
    above.length + ((eventsFrom line ps).foldl TagStack.step t).left.length = t.left.length + n

theorem Leaves.append (h : Leaves n ps) (h' : Leaves k qs) : Leaves (n + k) (ps ++ qs) := by
  intro line t
  obtain ⟨line', he⟩ := exists_eventsFrom_append line ps qs
  obtain ⟨above, hframes, hlength⟩ := h line t
  obtain ⟨above', hframes', hlength'⟩ := h' line' ((eventsFrom line ps).foldl TagStack.step t)
  rw [he, List.foldl_append]
  refine ⟨above' ++ above, ?_, ?_⟩
  · rw [hframes', hframes, List.append_assoc]
  · rw [List.length_append]
    omega

theorem leaves_of_silent (h : Silent ps) : Leaves 0 ps := by
  intro line t
  rw [h]
  exact ⟨[], rfl, Nat.zero_add _⟩

/-- A closing of a name that one of some tags has takes one of these, and leaves the tags below. -/
theorem exists_step_closed {name : List Char} {t : TagStack} {frames outer : List Frame}
    (ht : t.frames = frames ++ outer) (hname : ∃ f ∈ frames, f.1 = name) :
    ∃ above, (t.step (.closed name)).frames = above ++ outer ∧
      above.length + (t.step (.closed name)).left.length + 1 = frames.length + t.left.length := by
  cases hfind : frames.find? fun f => f.1 == name with
  | none =>
      obtain ⟨f, hf, hfname⟩ := hname
      exact absurd (beq_iff_eq.mpr hfname) (List.find?_eq_none.mp hfind f hf)
  | some f =>
      obtain ⟨hf, inner, rest, rfl, hinner⟩ := List.find?_eq_some_iff_append.mp hfind
      rw [List.append_assoc] at ht
      rw [step_closed ht (beq_iff_eq.mp hf) fun g hg => by simpa using hinner g hg]
      refine ⟨rest, rfl, ?_⟩
      simp only [List.length_append, List.length_reverse, List.length_cons]
      omega

/-- **An element whose opening tag is seen leaves a tag more than its children if its closing tag is not.** -/
theorem leaves_element (h : IsElement t (isComponentName t.name) inside children ps)
    (hchildren : Leaves n children) :
    Leaves (n + if isComponentName t.name && inside then 1 else 0) ps := by
  intro line s
  obtain ⟨line', line₁, he⟩ := h line
  rw [he, List.foldl_append, List.foldl_append]
  cases isComponentName t.name with
  | false =>
      simp only [Bool.false_and, Bool.false_eq_true, if_false, List.foldl_nil]
      exact hchildren line₁ s
  | true =>
      simp only [if_true, List.foldl_cons, List.foldl_nil, Bool.true_and]
      obtain ⟨above, hframes, hlength⟩ := hchildren line₁ (s.step (.opened t.readName line'))
      have hframes' : ((eventsFrom line₁ children).foldl TagStack.step
          (s.step (.opened t.readName line'))).frames = (above ++ [(t.readName, line')]) ++ s.frames := by
        rw [hframes, List.append_assoc]
        rfl
      have hleft : (s.step (.opened t.readName line')).left = s.left := rfl
      rw [hleft] at hlength
      cases inside with
      -- the closing tag stands in a comment, and the frame of the opening one is left
      | true =>
          refine ⟨_, hframes', ?_⟩
          simp only [Bool.not_true, Bool.false_eq_true, if_false, if_true, List.foldl_nil, List.length_append,
            List.length_singleton]
          omega
      | false =>
          simp only [Bool.not_false, if_true, List.foldl_cons, List.foldl_nil, Bool.false_eq_true, if_false]
          have hopen : ∃ f ∈ above ++ [(t.readName, line')], f.1 = t.readName :=
            ⟨(t.readName, line'), by simp, rfl⟩
          obtain ⟨above', hclosed, hlength'⟩ := exists_step_closed hframes' hopen
          refine ⟨above', hclosed, ?_⟩
          rw [List.length_append, List.length_singleton] at hlength'
          omega

theorem isSeen_eq {t : Tag} (h : (!isComponentName t.name || t.isSeen m w) = true) :
    t.isSeen m w = isComponentName t.name := by
  cases hname : isComponentName t.name with
  | false => rw [Tag.isSeen, hname, Bool.false_and, Bool.false_and]
  | true => simpa [hname] using h

/-- **Legible markup is read from end to end.** If its tags match, it keeps the tags that are open around it,
and if its opening tags are seen, it leaves one more for every closing tag that is not. -/
theorem Markup.reads (x : Markup) (prev : Char) (rest : List Char) (h : x.isLegible m = true)
    (hprev : m = false → isTagNamePart prev = false) (hrest : rest.head? ≠ some '/') :
    ∃ ps prev', Reads ⟨m, prev, x.render ++ rest⟩ ps ⟨x.leavesComment m, prev', rest⟩ ∧
      (∀ around, x.isMatched around m = true → Keeps around ps) ∧
      (x.isSeen m = true → Leaves (x.hiddenClosings m) ps) := by
  induction x generalizing m prev rest with
  | words w =>
      obtain ⟨ps, prev', hreads, hsilent, _⟩ := reads_words m prev w rest hrest
      exact ⟨ps, prev', hreads, fun _ _ => keeps_of_silent hsilent, fun _ => leaves_of_silent hsilent⟩
  | selfClosing w tag next ih =>
      rw [Markup.isLegible, Bool.and_eq_true] at h
      obtain ⟨htag, hnext⟩ := h
      obtain ⟨ps₁, prev₁, hreads₁, hprev₁, hevents₁⟩ :=
        tag.reads_opening w true prev (next.render ++ rest) htag hprev
      have hsilent₁ : Silent ps₁ := fun line => by
        obtain ⟨line', he⟩ := hevents₁ line
        rwa [Bool.not_true, Bool.and_false] at he
      obtain ⟨ps₂, prev₂, hreads₂, hkeeps, hleaves⟩ :=
        ih prev₁ rest hnext (fun hm => by rw [hprev₁ hm]; rfl) hrest
      refine ⟨ps₁ ++ ps₂, prev₂, ?_, fun around hmatched => ?_, fun hseen => ?_⟩
      · simpa [Markup.render, Markup.leavesComment, tagEnding] using hreads₁.append hreads₂
      · exact (keeps_of_silent hsilent₁).append (hkeeps around hmatched)
      · have := (leaves_of_silent hsilent₁).append (hleaves hseen)
        rwa [Nat.zero_add] at this
  | element w tag children gap next ihc ih =>
      simp only [Markup.isLegible, Bool.and_eq_true] at h
      obtain ⟨⟨htag, hchildren⟩, hnext⟩ := h
      obtain ⟨opening, prev₁, hreads₁, hprev₁, hopening⟩ := tag.reads_opening w false prev _ htag hprev
      obtain ⟨inner, prev₂, hreads₂, hkeeps₂, hleaves₂⟩ :=
        ihc prev₁ ('<' :: '/' :: (tag.name ++ (gap.val ++ '>' :: (next.render ++ rest)))) hchildren
          (fun hm => by rw [hprev₁ hm]; rfl) (by simp)
      obtain ⟨closing, prev₃, hreads₃, hprev₃, hclosing⟩ := tag.reads_closing gap _ prev₂ _
      obtain ⟨ps, prev₄, hreads₄, hkeeps₄, hleaves₄⟩ :=
        ih prev₃ rest hnext (fun hm => by rw [hprev₃ hm]; rfl) hrest
      refine ⟨(opening ++ (inner ++ closing)) ++ ps, prev₄, ?_, fun around hmatched => ?_, fun hseen => ?_⟩
      · have := (hreads₁.append (hreads₂.append hreads₃)).append hreads₄
        simpa [Markup.render, Markup.leavesComment, tagEnding] using this
      · simp only [Markup.isMatched, Bool.and_eq_true] at hmatched
        obtain ⟨⟨hinner, htag'⟩, hafter⟩ := hmatched
        have hname : tag.isSeen m w = true → isComponentName tag.name = true := fun hseen => by
          rw [Tag.isSeen, Bool.and_eq_true, Bool.and_eq_true] at hseen
          exact hseen.1.1
        have hkeeps := keeps_element (isElement_of_tags hopening hclosing) (hkeeps₂ _ hinner) hname htag'
        exact hkeeps.append (hkeeps₄ around hafter)
      · simp only [Markup.isSeen, Bool.and_eq_true] at hseen
        obtain ⟨⟨htag', hinner⟩, hafter⟩ := hseen
        rw [isSeen_eq htag'] at hopening
        have hleaves := leaves_element (isElement_of_tags hopening hclosing) (hleaves₂ hinner)
        exact hleaves.append (hleaves₄ hafter)

/-- If the opening tags are seen, the tags match if and only if no closing tag stands in a comment. -/
theorem isMatched_iff (x : Markup) (h : x.isSeen m = true) (around : List (List Char)) :
    x.isMatched around m = true ↔ x.hiddenClosings m = 0 := by
  induction x generalizing m around with
  | words => exact ⟨fun _ => rfl, fun _ => rfl⟩
  | selfClosing w tag next ih => exact ih h around
  | element w tag children gap next ihc ih =>
      simp only [Markup.isSeen, Bool.and_eq_true] at h
      obtain ⟨⟨htag, hinner⟩, hafter⟩ := h
      simp only [Markup.isMatched, Markup.hiddenClosings, Bool.and_eq_true, Nat.add_eq_zero_iff,
        ihc hinner, ih hafter, isSeen_eq htag]
      refine and_congr_left fun _ => and_congr_right fun _ => ?_
      cases hname : isComponentName tag.name with
      | false => simp [Tag.isMatched, hname]
      | true => simp [Tag.isMatched]

/-- **Well-nested markup has no unclosed tag, if every tag of it is legible and the tags of its elements match
for the scan.** If its opening tags are seen, that is needed: as many tags are reported as there are closing
tags in what the scan takes for a comment. -/
theorem unclosedTags_markup (x : Markup) (h : x.isLegible false = true) :
    (x.isMatched [] false = true → unclosedTags x.render = []) ∧
    (x.isSeen false = true → (unclosedTags x.render).length = x.hiddenClosings false ∧
      (unclosedTags x.render = [] ↔ x.isMatched [] false = true)) := by
  obtain ⟨ps, prev', hreads, hkeeps, hleaves⟩ := x.reads ' ' [] h (fun _ => rfl) (by simp)
  rw [List.append_nil] at hreads
  have hevents : tagEvents x.render.length ' ' 1 x.render = eventsFrom 1 ps :=
    tagEvents_reading ⟨_, hreads, rfl⟩
  constructor
  · intro hmatched
    rw [unclosedTags, hevents, hkeeps [] hmatched 1 ⟨[], []⟩ rfl]
    exact List.mergeSort_nil
  · intro hseen
    obtain ⟨above, hframes, hlength⟩ := hleaves hseen 1 ⟨[], []⟩
    have hcount : (unclosedTags x.render).length = x.hiddenClosings false := by
      rw [unclosedTags, hevents, List.length_mergeSort, TagStack.unclosed, List.length_append,
        List.length_reverse, hframes, List.append_nil]
      simpa [Nat.add_comm] using hlength
    refine ⟨hcount, ?_⟩
    rw [isMatched_iff x hseen, ← hcount, List.length_eq_zero_iff]

def link : Attribute := { name := "href".toList, value := "http://localhost".toList }

/-- A component around a link. -/
def linkInside : Markup :=
  .element ⟨[], by decide⟩ { name := "Card".toList }
    (.element ⟨[], by decide⟩ { name := "a".toList, attributes := [link] } (.words ⟨['x'], by decide⟩)
      ⟨[], by decide⟩ (.words ⟨[], by decide⟩))
    ⟨[], by decide⟩ (.words ⟨['\n'], by decide⟩)

/-- The component is reported, for its closing tag stands behind two slashes. -/
theorem unclosedTags_linkInside :
    linkInside.render = "<Card><a href=\"http://localhost\">x</a></Card>\n".toList ∧
      unclosedTags linkInside.render = [("Card".toList, 1)] ∧ ¬∀ x : Markup, unclosedTags x.render = [] := by
  have hstack : ((tagEvents linkInside.render.length ' ' 1 linkInside.render).foldl TagStack.step
      ⟨[], []⟩).unclosed = [("Card".toList, 1)] := by decide +kernel
  have hreport : unclosedTags linkInside.render = [("Card".toList, 1)] := by
    rw [unclosedTags, hstack]
    exact List.mergeSort_singleton _
  refine ⟨by decide +kernel, hreport, fun h => ?_⟩
  cases hreport.symm.trans (h linkInside)

/-- A page with a link in a component, one in a text that ends its line, and a component behind a word. -/
def page : Markup :=
  .element ⟨[], by decide⟩ { name := "Page".toList }
    (.element ⟨"\n  ".toList, by decide⟩
      { name := "p".toList, attributes := [{ name := "title".toList, value := "a > b".toList }] }
      (.words ⟨"See http://localhost\n  ".toList, by decide⟩) ⟨[], by decide⟩
      (.selfClosing ⟨"Hi".toList, by decide⟩ { name := "Icon".toList }
        (.selfClosing ⟨[], by decide⟩
          { name := "Card".toList, attributes := [link], gap := ⟨"\n  ".toList, by decide⟩ }
          (.words ⟨['\n'], by decide⟩))))
    ⟨[], by decide⟩ (.words ⟨['\n'], by decide⟩)

theorem unclosedTags_page : page.render =
    ("<Page>\n  <p title=\"a > b\">See http://localhost\n  </p>Hi<Icon/>" ++
      "<Card href=\"http://localhost\"\n  />\n</Page>\n").toList ∧
    page.isLegible false = true ∧ unclosedTags page.render = [] := by
  have hlegible : page.isLegible false = true := by decide +kernel
  exact ⟨by decide +kernel, hlegible, (unclosedTags_markup page hlegible).1 (by decide +kernel)⟩

end AppMend.Check
