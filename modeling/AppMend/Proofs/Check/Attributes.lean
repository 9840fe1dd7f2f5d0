import AppMend.Check.Structure
import AppMend.Proofs.Check.Markup
import AppMend.Proofs.Check.TagPatterns

/-!
# Attributes as the patterns see them

An image or an input that closes itself is written from attributes: a name with no value, with one between
double quotes, or with one in braces (`LoneElement`). A pattern reads such an element up to the first closing
bracket, which may stand in a value, and looks there for the name of an attribute with an equals sign behind it.
So it sees the attributes up to the first value with a closing bracket, and one of them shows a name if it has a
value and its own name ends so, or if its value holds the name with an equals sign (`infix_seen_iff`).

The rule on attributes asks for their names alone. An element is judged by it if each of its attributes shows
exactly what it is named, and no value has a bracket (`element_issues_seen`).
-/

namespace AppMend.Check

open Text Pattern

/-! ## Elements from attributes -/

/-- Whether the braces of a text are balanced behind `n` open ones. -/
def isBalanced : Nat → List Char → Bool
  | n, [] => n == 0
  | n, '\x7b' :: s => isBalanced (n + 1) s
  | 0, '\x7d' :: _ => false
  | n + 1, '\x7d' :: s => isBalanced n s
  | n, _ :: s => isBalanced n s

inductive AttributeValue where
  | absent
  | quoted (text : List Char) (closed : '"' ∉ text)
  | braced (text : List Char) (balanced : isBalanced 0 text = true)

namespace AttributeValue

def isPresent : AttributeValue → Bool
  | absent => false
  | _ => true

/-- What stands between the marks of a value. -/
def inner : AttributeValue → List Char
  | absent => []
  | quoted v _ => v
  | braced v _ => v

def text : AttributeValue → List Char
  | absent => []
  | quoted v _ => '=' :: '"' :: (v ++ ['"'])
  | braced v _ => '=' :: '\x7b' :: (v ++ ['\x7d'])

end AttributeValue

theorem all_isBlank_space : [' '].all isBlank = true := by decide

theorem space_ne_nil : [' '] ≠ [] := by decide

/-- An attribute and the blanks before it. -/
structure ElementAttribute where
  gap : Blanks := ⟨[' '], all_isBlank_space⟩
  name : List Char
  value : AttributeValue := .absent
  gap_ne : gap.val ≠ [] := by decide
  name_ne : name ≠ [] := by decide
  all_name : name.all isMarkupName = true := by decide

def ElementAttribute.text (a : ElementAttribute) : List Char := a.gap.val ++ (a.name ++ a.value.text)

inductive LoneTag where
  | img
  | input
deriving DecidableEq

def LoneTag.name : LoneTag → List Char
  | img => "img".toList
  | input => "input".toList

/-- An image or an input that closes itself. -/
structure LoneElement where
  tag : LoneTag
  attributes : List ElementAttribute := []
  gap : Blanks := ⟨[], by decide⟩

/-- What stands behind the name of an element. -/
def bodyOf (as : List ElementAttribute) (gap : Blanks) : List Char :=
  as.flatMap ElementAttribute.text ++ (gap.val ++ ['/', '>'])

def LoneElement.text (e : LoneElement) : List Char := '<' :: (e.tag.name ++ bodyOf e.attributes e.gap)

/-! ## The rule on attributes -/

/-- An image has no attribute `alt`. -/
def LoneElement.NeedsAlt (e : LoneElement) : Prop :=
  e.tag = .img ∧ ∀ a ∈ e.attributes, a.name ≠ "alt".toList

/-- An input has an attribute `className` or `class`. -/
def LoneElement.IsRawControl (e : LoneElement) : Prop :=
  e.tag = .input ∧ ∃ a ∈ e.attributes, a.name = "className".toList ∨ a.name = "class".toList

instance (e : LoneElement) : Decidable e.NeedsAlt := inferInstanceAs (Decidable (_ ∧ _))

instance (e : LoneElement) : Decidable e.IsRawControl := inferInstanceAs (Decidable (_ ∧ _))

/-! ## What is seen -/

/-- The attributes up to the first whose value has a closing bracket. -/
def seenOf : List ElementAttribute → List ElementAttribute
  | [] => []
  | a :: as => if '>' ∈ a.value.inner then [a] else a :: seenOf as

/-- What stands before the first closing bracket. -/
def upToEnd (s : List Char) : List Char := s.takeWhile (· != '>')

/-- What stands behind the name of an element before the first closing bracket. -/
def seenText (as : List ElementAttribute) (gap : Blanks) : List Char := upToEnd (bodyOf as gap)

/-- An attribute shows a name: it has a value and its own name ends so, or the name stands in its value with an
equals sign behind it. -/
def ElementAttribute.Shows (p : List Char) (a : ElementAttribute) : Prop :=
  (a.value.isPresent = true ∧ p <:+ a.name) ∨ p ++ ['='] <:+: upToEnd a.value.inner

instance (p : List Char) (a : ElementAttribute) : Decidable (a.Shows p) := inferInstanceAs (Decidable (_ ∨ _))

variable {names : List (List Char)} {a : ElementAttribute} {as : List ElementAttribute} {gap : Blanks}
  {e : LoneElement} {p u v w s : List Char} {c : Char}

/-- The value of an attribute is absent, or it stands between two marks behind an equals sign. -/
theorem AttributeValue.cases_text (value : AttributeValue) :
    (value.isPresent = false ∧ value.inner = [] ∧ value.text = []) ∨
      (value.isPresent = true ∧ ∃ q q', value.text = '=' :: q :: (value.inner ++ [q']) ∧
        ∀ c ∈ [q, q'], isMarkupName c = false ∧ c ≠ '=' ∧ c ≠ '<' ∧ c ≠ '>') := by
  have hmarks (q q' : Char) (hq : isMarkupName q = false ∧ q ≠ '=' ∧ q ≠ '<' ∧ q ≠ '>')
      (hq' : isMarkupName q' = false ∧ q' ≠ '=' ∧ q' ≠ '<' ∧ q' ≠ '>') :
      ∀ c ∈ [q, q'], isMarkupName c = false ∧ c ≠ '=' ∧ c ≠ '<' ∧ c ≠ '>' :=
    List.forall_mem_cons.mpr ⟨hq, List.forall_mem_singleton.mpr hq'⟩
  cases value with
  | absent => exact .inl ⟨rfl, rfl, rfl⟩
  | quoted v _ => exact .inr ⟨rfl, '"', '"', rfl, hmarks _ _ (by decide) (by decide)⟩
  | braced v _ => exact .inr ⟨rfl, '\x7b', '\x7d', rfl, hmarks _ _ (by decide) (by decide)⟩

theorem ElementAttribute.isMarkupName_of_mem (a : ElementAttribute) : ∀ c ∈ a.name, isMarkupName c = true :=
  List.all_eq_true.mp a.all_name

theorem not_markupName_of_blank (h : isBlank c = true) : isMarkupName c = false := by
  simp [isMarkupName, h]

/-! ## Where a name is shown -/

/-- A name with an equals sign. -/
abbrev asked (p : List Char) : List Char := p ++ ['=']

theorem not_mem_asked (hp : ∀ c ∈ p, isMarkupName c = true) (hc : isMarkupName c = false) (heq : c ≠ '=') :
    c ∉ asked p := by
  rw [asked, List.mem_append, List.mem_singleton]
  rintro (hmem | rfl)
  · rw [hp c hmem] at hc
    cases hc
  · exact heq rfl

/-- Characters that are not in a text may be left out before a place where it occurs. -/
theorem infix_append_left_iff (hw : w ≠ []) (hu : ∀ c ∈ u, c ∉ w) : w <:+: u ++ v ↔ w <:+: v := by
  induction u with
  | nil => rfl
  | cons c u ih =>
      obtain ⟨hc, hu⟩ := List.forall_mem_cons.mp hu
      have hskip := infix_append_cons_iff (u := []) (v := u ++ v) hc
      rw [List.cons_append, ← ih hu]
      simpa [hw] using hskip

theorem asked_infix_name_iff (hname : '=' ∉ u) : asked p <:+: u ++ ['='] ↔ p <:+ u := by
  rw [List.infix_concat_iff, List.suffix_concat_iff]
  constructor
  · rintro ((h | ⟨t, ht, hsuffix⟩) | h)
    · simp at h
    · rwa [List.append_cancel_right ht]
    · exact absurd (h.subset (List.mem_append_right _ List.mem_cons_self)) hname
  · exact fun h => .inl (.inr ⟨p, rfl, h⟩)

theorem upToEnd_append (h : '>' ∉ u) : upToEnd (u ++ v) = u ++ upToEnd v :=
  List.takeWhile_append_of_pos fun _ hc => bne_iff_ne.mpr (ne_of_mem_of_not_mem hc h)

theorem upToEnd_eq_self (h : '>' ∉ u) : upToEnd u = u := by
  simpa [upToEnd] using upToEnd_append (v := []) h

theorem upToEnd_append_of_mem (h : '>' ∈ u) : upToEnd (u ++ v) = upToEnd u := by
  obtain ⟨x, y, rfl, hx⟩ := List.eq_append_cons_of_mem h
  rw [List.append_assoc, upToEnd_append hx, upToEnd_append hx]
  rfl

theorem not_name_of_separator (h : isBlank c = true ∨ c = '/') :
    isMarkupName c = false ∧ c ≠ '=' ∧ isWord c = false := by
  rcases h with h | rfl
  · refine ⟨not_markupName_of_blank h, ?_, isWord_of_isBlank h⟩
    rintro rfl
    exact absurd h (by decide)
  · decide

/-- What is seen behind a name or an attribute begins with a blank or ends the tag. -/
theorem exists_seenText_eq (as : List ElementAttribute) (gap : Blanks) :
    ∃ c s, seenText as gap = c :: s ∧ (isBlank c = true ∨ c = '/') := by
  have hblank {u v : List Char} (hu : ∀ c ∈ u, isBlank c = true) (hne : u ≠ []) :
      ∃ c s, upToEnd (u ++ v) = c :: s ∧ (isBlank c = true ∨ c = '/') := by
    obtain ⟨c, u, rfl⟩ := List.exists_cons_of_ne_nil hne
    have hend : '>' ∉ c :: u := fun h => absurd (hu _ h) (by decide)
    exact ⟨c, u ++ upToEnd v, upToEnd_append hend, .inl (hu c List.mem_cons_self)⟩
  cases as with
  | nil =>
      rw [seenText, bodyOf, List.flatMap_nil, List.nil_append]
      by_cases hgap : gap.val = []
      · exact ⟨'/', [], by rw [hgap]; rfl, .inr rfl⟩
      · exact hblank (isBlank_of_mem gap) hgap
  | cons a as =>
      rw [seenText, bodyOf, List.flatMap_cons, ElementAttribute.text, List.append_assoc, List.append_assoc]
      exact hblank (isBlank_of_mem a.gap) a.gap_ne

/-- An attribute shows a name, or one behind it does that is seen. -/
theorem infix_seen_cons_iff (hp : ∀ c ∈ p, isMarkupName c = true) : asked p <:+: seenText (a :: as) gap ↔
    a.Shows p ∨ '>' ∉ a.value.inner ∧ asked p <:+: seenText as gap := by
  have hne : asked p ≠ [] := by simp
  have hgapEnd : '>' ∉ a.gap.val := fun h => absurd (isBlank_of_mem a.gap _ h) (by decide)
  have hnameEnd : '>' ∉ a.name := fun h => absurd (a.isMarkupName_of_mem _ h) (by decide)
  have hnameSign : '=' ∉ a.name := fun h => absurd (a.isMarkupName_of_mem _ h) (by decide)
  have hgap : ∀ c ∈ a.gap.val, c ∉ asked p := fun c hc => by
    have hblank := isBlank_of_mem a.gap c hc
    obtain ⟨hname, heq, _⟩ := not_name_of_separator (.inl hblank)
    exact not_mem_asked hp hname heq
  have hbody : bodyOf (a :: as) gap = a.gap.val ++ (a.name ++ (a.value.text ++ bodyOf as gap)) := by
    simp [bodyOf, ElementAttribute.text]
  rw [seenText, hbody, upToEnd_append hgapEnd, upToEnd_append hnameEnd, infix_append_left_iff hne hgap]
  rcases a.value.cases_text with ⟨habsent, hinner, htext⟩ | ⟨hpresent, q, q', htext, hmarks⟩
  · -- without a value nothing is shown, and what is seen next begins with a blank or ends the tag
    obtain ⟨c, s, hs, hc⟩ := exists_seenText_eq as gap
    obtain ⟨hname, heq, _⟩ := not_name_of_separator hc
    have hsep := not_mem_asked hp hname heq
    have hskip := infix_append_cons_iff (u := []) (v := s) hsep
    have hnoname : ¬asked p <:+: a.name := fun h => hnameSign (h.subset (by simp))
    rw [htext, List.nil_append, ← seenText, hs, infix_append_cons_iff hsep]
    simp_all [ElementAttribute.Shows, upToEnd]
  · obtain ⟨hq, hq'⟩ : (isMarkupName q = false ∧ q ≠ '=' ∧ q ≠ '<' ∧ q ≠ '>') ∧
        (isMarkupName q' = false ∧ q' ≠ '=' ∧ q' ≠ '<' ∧ q' ≠ '>') := by simpa using hmarks
    have hopening := not_mem_asked hp hq.1 hq.2.1
    have hclosing := not_mem_asked hp hq'.1 hq'.2.1
    have hvalue : upToEnd (a.value.text ++ bodyOf as gap) =
        '=' :: q :: upToEnd (a.value.inner ++ q' :: bodyOf as gap) := by
      have hstart : '>' ∉ ['=', q] := by simp [hq.2.2.2.symm]
      rw [htext]
      simpa using upToEnd_append (v := a.value.inner ++ q' :: bodyOf as gap) hstart
    have hsplit : a.name ++ '=' :: q :: upToEnd (a.value.inner ++ q' :: bodyOf as gap) =
        (a.name ++ ['=']) ++ q :: upToEnd (a.value.inner ++ q' :: bodyOf as gap) := by simp
    rw [hvalue, hsplit, infix_append_cons_iff hopening, asked_infix_name_iff hnameSign, ElementAttribute.Shows,
      or_assoc, and_iff_right hpresent]
    by_cases hend : '>' ∈ a.value.inner
    · rw [upToEnd_append_of_mem hend]
      simp [hend]
    · have hnext : upToEnd (q' :: bodyOf as gap) = q' :: seenText as gap := by
        have hstart : '>' ∉ [q'] := by simp [hq'.2.2.2.symm]
        exact upToEnd_append (v := bodyOf as gap) hstart
      rw [upToEnd_append hend, hnext, infix_append_cons_iff hclosing, upToEnd_eq_self hend]
      simp [hend]

/-- **A name with an equals sign is seen in an element exactly if an attribute that is seen shows it.** -/
theorem infix_seen_iff (hp : ∀ c ∈ p, isMarkupName c = true) :
    asked p <:+: seenText as gap ↔ ∃ a ∈ seenOf as, a.Shows p := by
  induction as with
  | nil =>
      have hnone : '=' ∉ seenText [] gap := by
        intro h
        rcases List.mem_append.mp ((List.takeWhile_sublist _).subset h) with h | h
        · cases h
        · rcases List.mem_append.mp h with h | h
          · exact absurd (isBlank_of_mem gap _ h) (by decide)
          · exact absurd h (by decide)
      refine ⟨fun h => absurd (h.subset (by simp)) hnone, ?_⟩
      rintro ⟨_, h, _⟩
      cases h
  | cons a as ih =>
      rw [infix_seen_cons_iff hp, ih, seenOf]
      split
      · rename_i hend
        simp [hend]
      · rename_i hend
        simp [hend]

/-! ## Where the tag of an element ends -/

theorem LoneTag.name_mem (tag : LoneTag) : tag.name ∈ imageNames ++ controlNames := by
  cases tag <;> decide

/-- An element is one tag, as a pattern reads it, and what stands behind the first closing bracket. -/
theorem LoneElement.exists_text_eq (e : LoneElement) :
    '>' ∉ seenText e.attributes e.gap ∧ ∃ b, e.text = tagText e.tag.name (seenText e.attributes e.gap) ++ b := by
  have hmem : '>' ∈ bodyOf e.attributes e.gap := by simp [bodyOf]
  obtain ⟨x, b, hbody, hx⟩ := List.eq_append_cons_of_mem hmem
  have hseen : seenText e.attributes e.gap = x := by
    rw [seenText, hbody, upToEnd_append hx]
    exact List.append_nil x
  rw [hseen]
  exact ⟨hx, b, by rw [text, hbody]; simp [tagText]⟩

theorem LoneElement.isTag (e : LoneElement) (h : e.tag.name ∈ names) :
    IsTag names e.tag.name (seenText e.attributes e.gap) := by
  obtain ⟨c, s, hs, hc⟩ := exists_seenText_eq e.attributes e.gap
  refine ⟨h, fun x hx => ?_, e.exists_text_eq.1⟩
  obtain rfl : c = x := by simpa [hs] using hx
  exact (not_name_of_separator hc).2.2

/-- A tag that begins within an element, in the value of an attribute, has a property. -/
def LoneElement.Within (e : LoneElement) (names : List (List Char)) (P : List Char → Prop) : Prop :=
  ∃ a name inner b, a ≠ [] ∧ TagAt names e.text a name inner b ∧ P inner

/-- The tags of an element are its own and those that begin within it. -/
theorem LoneElement.exists_tagAt_iff (e : LoneElement) (hnames : ∀ n ∈ names, n ∈ imageNames ++ controlNames)
    (P : List Char → Prop) : (∃ a name inner b, TagAt names e.text a name inner b ∧ P inner) ↔
      (e.tag.name ∈ names ∧ P (seenText e.attributes e.gap)) ∨ e.Within names P := by
  obtain ⟨_, b', htext⟩ := e.exists_text_eq
  constructor
  · rintro ⟨a, name, inner, b, hat, hP⟩
    by_cases ha : a = []
    · subst ha
      have hsame := htext.symm.trans hat.text
      obtain ⟨rfl, rfl, _⟩ := tagText_inj (by decide) (e.isTag e.tag.name_mem)
        ⟨hnames name hat.isTag.mem, hat.isTag.edge, hat.isTag.inner⟩ hsame
      exact .inl ⟨hat.isTag.mem, hP⟩
    · exact .inr ⟨a, name, inner, b, ha, hat, hP⟩
  · rintro (⟨hmem, hP⟩ | ⟨a, name, inner, b, _, hat, hP⟩)
    · refine ⟨[], e.tag.name, _, b', ⟨htext, e.isTag hmem, ?_⟩, hP⟩
      intro x z _ _ hnil _ _
      exact (List.append_eq_nil_iff.mp hnil.symm).2
    · exact ⟨a, name, inner, b, hat, hP⟩

theorem ElementAttribute.opening_not_mem_text (h : '<' ∉ a.value.inner) : '<' ∉ a.text := by
  have hgap : '<' ∉ a.gap.val := fun hmem => absurd (isBlank_of_mem a.gap _ hmem) (by decide)
  have hname : '<' ∉ a.name := fun hmem => absurd (a.isMarkupName_of_mem _ hmem) (by decide)
  have hvalue : '<' ∉ a.value.text := by
    rcases a.value.cases_text with ⟨_, _, htext⟩ | ⟨_, q, q', htext, hmarks⟩
    · simp [htext]
    · have hq := (hmarks q (by simp)).2.2.1
      have hq' := (hmarks q' (by simp)).2.2.1
      simp [htext, h, hq.symm, hq'.symm]
  simp [text, hgap, hname, hvalue]

/-- No tag begins within an element if no value has an opening bracket. -/
theorem LoneElement.not_within (e : LoneElement) (he : ∀ a ∈ e.attributes, '<' ∉ a.value.inner)
    (P : List Char → Prop) : ¬e.Within names P := by
  rintro ⟨a, name, inner, b, ha, hat, _⟩
  obtain ⟨c, a, rfl⟩ := List.exists_cons_of_ne_nil ha
  have htail : e.tag.name ++ bodyOf e.attributes e.gap = a ++ (tagText name inner ++ b) :=
    (List.cons.inj hat.text).2
  have hopening : '<' ∈ e.tag.name ++ bodyOf e.attributes e.gap := by
    rw [htail]
    simp [tagText]
  have hname : '<' ∉ e.tag.name := by cases e.tag <;> decide
  have hgap : '<' ∉ e.gap.val := fun hmem => absurd (isBlank_of_mem e.gap _ hmem) (by decide)
  have hattributes : '<' ∉ e.attributes.flatMap ElementAttribute.text := by
    intro hmem
    obtain ⟨a, ha, hmem⟩ := List.mem_flatMap.mp hmem
    exact a.opening_not_mem_text (he a ha) hmem
  simp [bodyOf, hname, hgap, hattributes] at hopening

/-! ## Issues of an element -/

/-- An image without `alt=` up to the closing bracket begins within an element. -/
def LoneElement.ImageWithin (e : LoneElement) : Prop :=
  e.Within imageNames fun inner => ¬asked "alt".toList <:+: inner

/-- A control with `className=` or `class=` up to the closing bracket begins within an element. -/
def LoneElement.ControlWithin (e : LoneElement) : Prop :=
  e.Within controlNames fun inner => asked "className".toList <:+: inner ∨ asked "class".toList <:+: inner

theorem LoneElement.nothing_within (e : LoneElement) (he : ∀ a ∈ e.attributes, '<' ∉ a.value.inner) :
    ¬e.ImageWithin ∧ ¬e.ControlWithin := ⟨e.not_within he _, e.not_within he _⟩

def LoneElement.ReportsImage (e : LoneElement) : Prop := ∃ line, .imageWithoutAlt line ∈ patternIssues e.text

def LoneElement.ReportsControl (e : LoneElement) : Prop := ∃ tag line, .rawControl tag line ∈ patternIssues e.text

theorem LoneElement.reportsImage_iff (e : LoneElement) : e.ReportsImage ↔
    (e.tag = .img ∧ ¬∃ a ∈ seenOf e.attributes, a.Shows "alt".toList) ∨ e.ImageWithin := by
  have htag : e.tag.name ∈ imageNames ↔ e.tag = .img := by cases e.tag <;> decide
  have hreport : e.ReportsImage ↔
      ∃ a name inner b, TagAt imageNames e.text a name inner b ∧ ¬asked "alt".toList <:+: inner := by
    simp only [ReportsImage, mem_imageIssues_iff]
    constructor
    · rintro ⟨_, a, name, inner, b, hat, hnone, _⟩
      exact ⟨a, name, inner, b, hat, hnone⟩
    · rintro ⟨a, name, inner, b, hat, hnone⟩
      exact ⟨_, a, name, inner, b, hat, hnone, rfl⟩
  have hname : ∀ c ∈ "alt".toList, isMarkupName c = true := forall_of_all (by decide)
  rw [hreport, e.exists_tagAt_iff (fun n hn => List.mem_append_left _ hn), htag, infix_seen_iff hname]
  rfl

theorem LoneElement.reportsControl_iff (e : LoneElement) : e.ReportsControl ↔
    (e.tag = .input ∧ ∃ a ∈ seenOf e.attributes, a.Shows "className".toList ∨ a.Shows "class".toList) ∨
      e.ControlWithin := by
  have htag : e.tag.name ∈ controlNames ↔ e.tag = .input := by cases e.tag <;> decide
  have hreport : e.ReportsControl ↔ ∃ a name inner b, TagAt controlNames e.text a name inner b ∧
      (asked "className".toList <:+: inner ∨ asked "class".toList <:+: inner) := by
    simp only [ReportsControl, mem_controlIssues_iff]
    constructor
    · rintro ⟨_, _, a, name, inner, b, hat, hclass, _, _⟩
      exact ⟨a, name, inner, b, hat, hclass⟩
    · rintro ⟨a, name, inner, b, hat, hclass⟩
      exact ⟨_, _, a, name, inner, b, hat, hclass, rfl, rfl⟩
  have hlong : ∀ c ∈ "className".toList, isMarkupName c = true := forall_of_all (by decide)
  have hshort : ∀ c ∈ "class".toList, isMarkupName c = true := forall_of_all (by decide)
  rw [hreport, e.exists_tagAt_iff (fun n hn => List.mem_append_right _ hn), htag, infix_seen_iff hlong,
    infix_seen_iff hshort, ← exists_or]
  simp only [← and_or_left]
  rfl

/-- An attribute is what its name says: its value has no bracket, and of the names that are asked for it shows
exactly its own. -/
structure ElementAttribute.Plain (a : ElementAttribute) : Prop where
  opening : '<' ∉ a.value.inner
  closing : '>' ∉ a.value.inner
  shows_iff : ∀ p ∈ ["alt", "className", "class"], a.Shows p.toList ↔ a.name = p.toList

theorem seenOf_eq_self (h : ∀ a ∈ as, '>' ∉ a.value.inner) : seenOf as = as := by
  induction as with
  | nil => rfl
  | cons a as ih =>
      obtain ⟨ha, has⟩ := List.forall_mem_cons.mp h
      rw [seenOf, if_neg ha, ih has]

/-! ## The rule as the outline is judged by it -/

/-- A tag of an outline says what an element is: its name and the names of its attributes. -/
structure Outlines (t : Outline) (e : LoneElement) : Prop where
  name : t.text = String.ofList e.tag.name
  attributes : (attributesOf t).map Outline.text = e.attributes.map fun a => String.ofList a.name
  noSpread : ∀ c ∈ t.children, c.kind ≠ .braces

theorem Outlines.hasAttribute_iff {t : Outline} (h : Outlines t e) (name : String) :
    hasAttribute t name = true ↔ ∃ a ∈ e.attributes, a.name = name.toList := by
  have hmem : hasAttribute t name = true ↔ name ∈ (attributesOf t).map Outline.text := by
    simp [hasAttribute]
  rw [hmem, h.attributes, List.mem_map]
  refine exists_congr fun a => and_congr_right fun _ => ?_
  constructor
  · rintro rfl
    rw [String.toList_ofList]
  · intro h
    rw [h, String.ofList_toList]

/-- **The rule on attributes is what a tag of an outline is judged by.** -/
theorem Outlines.tagIssues_iff {t : Outline} (h : Outlines t e) (s : List Char) :
    ((∃ line, .imageWithoutAlt line ∈ tagIssues s t) ↔ e.NeedsAlt) ∧
      ((∃ tag line, .rawControl tag line ∈ tagIssues s t) ↔ e.IsRawControl) := by
  have hspread : (t.children.any fun c => c.kind == .braces) = false :=
    List.any_eq_false.mpr fun c hc => by simpa using h.noSpread c hc
  have halt := h.hasAttribute_iff "alt"
  have hclassName := h.hasAttribute_iff "className"
  have hclass := h.hasAttribute_iff "class"
  cases htag : e.tag with
  | img =>
      have htext : t.text = "img" := by
        rw [h.name, htag]
        rfl
      simp [tagIssues, htext, hspread, LoneElement.NeedsAlt, LoneElement.IsRawControl, htag, ← Bool.not_eq_true,
        halt, Option.bind_eq_some_iff]
  | input =>
      have htext : t.text = "input" := by
        rw [h.name, htag]
        rfl
      simp [tagIssues, htext, hspread, LoneElement.NeedsAlt, LoneElement.IsRawControl, htag, hclassName, hclass,
        Option.bind_eq_some_iff, ← exists_or, ← and_or_left]

/-- **What is reported of an element.** The patterns read it up to the first closing bracket and look there for
names with an equals sign; and they report tags that begin within a value. With plain attributes that is what the
rule on attributes says, and an outline is judged by that rule in any case. -/
theorem element_issues_seen (e : LoneElement) :
    (e.ReportsImage ↔
      (e.tag = .img ∧ ¬∃ a ∈ seenOf e.attributes, a.Shows "alt".toList) ∨ e.ImageWithin) ∧
    (e.ReportsControl ↔
      (e.tag = .input ∧ ∃ a ∈ seenOf e.attributes, a.Shows "className".toList ∨ a.Shows "class".toList) ∨
        e.ControlWithin) ∧
    ((∀ a ∈ e.attributes, '<' ∉ a.value.inner) → ¬e.ImageWithin ∧ ¬e.ControlWithin) ∧
    ((∀ a ∈ e.attributes, a.Plain) → (e.ReportsImage ↔ e.NeedsAlt) ∧ (e.ReportsControl ↔ e.IsRawControl)) ∧
    ∀ t s, Outlines t e → ((∃ line, .imageWithoutAlt line ∈ tagIssues s t) ↔ e.NeedsAlt) ∧
      ((∃ tag line, .rawControl tag line ∈ tagIssues s t) ↔ e.IsRawControl) := by
  refine ⟨e.reportsImage_iff, e.reportsControl_iff, e.nothing_within, fun hplain => ?_,
    fun t s h => h.tagIssues_iff s⟩
  obtain ⟨himage, hcontrol⟩ := e.nothing_within fun a ha => (hplain a ha).opening
  have hseen : seenOf e.attributes = e.attributes := seenOf_eq_self fun a ha => (hplain a ha).closing
  have hshows {p : String} (hp : p ∈ ["alt", "className", "class"]) {a : ElementAttribute}
      (ha : a ∈ e.attributes) : a.Shows p.toList ↔ a.name = p.toList := (hplain a ha).shows_iff p hp
  constructor
  · rw [e.reportsImage_iff, or_iff_left himage, hseen, LoneElement.NeedsAlt]
    refine and_congr_right fun _ => ?_
    simp only [not_exists, not_and]
    exact forall₂_congr fun a ha => not_congr (hshows (by decide) ha)
  · rw [e.reportsControl_iff, or_iff_left hcontrol, hseen, LoneElement.IsRawControl]
    refine and_congr_right fun _ => exists_congr fun a => and_congr_right fun ha => ?_
    rw [hshows (by decide) ha, hshows (by decide) ha]

/-- An image with `alt` and an input with `className`, both with a value in braces before it. -/
theorem element_issues_seen_plain :
    let image : LoneElement := ⟨.img, [{ name := "src".toList, value := .braced "x".toList rfl },
      { name := "alt".toList, value := .quoted "a".toList (by decide) }], ⟨[' '], by decide⟩⟩
    let input : LoneElement := ⟨.input, [{ name := "onChange".toList, value := .braced "go".toList rfl },
      { name := "className".toList, value := .quoted "x".toList (by decide) }], ⟨[], by decide⟩⟩
    let tag : Outline :=
      .sound .selfClosingTag 0 "img" [.sound .attribute 5 "src" [], .sound .attribute 13 "alt" []]
    ¬image.ReportsImage ∧ ¬image.ImageWithin ∧ input.ReportsControl ∧
      ¬∃ line, .imageWithoutAlt line ∈ tagIssues image.text tag := by
  intro image input tag
  have himage : ∀ a ∈ image.attributes, a.Plain := by
    simp only [image, List.forall_mem_cons]
    exact ⟨⟨by decide, by decide, by decide⟩, ⟨by decide, by decide, by decide⟩, by simp⟩
  have hinput : ∀ a ∈ input.attributes, a.Plain := by
    simp only [input, List.forall_mem_cons]
    exact ⟨⟨by decide, by decide, by decide⟩, ⟨by decide, by decide, by decide⟩, by simp⟩
  have htag : Outlines tag image := ⟨by decide, by decide, by decide⟩
  obtain ⟨_, _, hwithin, hplain, houtline⟩ := element_issues_seen image
  refine ⟨mt (hplain himage).1.mp (by decide), (hwithin fun a ha => (himage a ha).opening).1, ?_,
    mt (houtline tag _ htag).1.mp (by decide)⟩
  exact ((element_issues_seen input).2.2.2.1 hinput).2.mpr (by decide)

/-- An element of one or two attributes with a blank before its end. -/
def elementOf (tag : LoneTag) (as : List ElementAttribute) : LoneElement :=
  ⟨tag, as, ⟨[' '], all_isBlank_space⟩⟩

/-- A handler whose arrow ends what is seen of an element. -/
def arrowHandler (name : List Char) (hne : name ≠ [])
    (hname : name.all isMarkupName = true) : ElementAttribute where
  name := name
  value := .braced "() => go()".toList rfl
  gap_ne := space_ne_nil
  name_ne := hne
  all_name := hname

def lateAlt : LoneElement :=
  elementOf .img [arrowHandler "onLoad".toList (by decide) (by decide),
    { name := "alt".toList, value := .quoted "x".toList (by decide), gap_ne := space_ne_nil }]

def longerName : LoneElement :=
  elementOf .img
    [{ name := "data-alt".toList, value := .quoted "x".toList (by decide), gap_ne := space_ne_nil }]

def bareAlt : LoneElement := elementOf .img [{ name := "alt".toList, gap_ne := space_ne_nil }]

def lateClass : LoneElement :=
  elementOf .input [arrowHandler "onChange".toList (by decide) (by decide),
    { name := "className".toList, value := .quoted "x".toList (by decide), gap_ne := space_ne_nil }]

theorem all_isMarkupName_title : "title".toList.all isMarkupName = true := by decide

def quotedClass : LoneElement :=
  elementOf .input
    [{ name := "title".toList, value := .quoted "class=".toList (by decide), gap_ne := space_ne_nil,
       all_name := all_isMarkupName_title }]

/-- **Elements that are not judged by their attributes**: a closing bracket in a value hides what follows it, a
longer name and a value pass for the name, and a name without a value is not seen. -/
theorem misjudged_elements :
    (lateAlt.ReportsImage ∧ ¬lateAlt.NeedsAlt) ∧ (¬longerName.ReportsImage ∧ longerName.NeedsAlt) ∧
      (bareAlt.ReportsImage ∧ ¬bareAlt.NeedsAlt) ∧ (¬lateClass.ReportsControl ∧ lateClass.IsRawControl) ∧
      (quotedClass.ReportsControl ∧ ¬quotedClass.IsRawControl) := by
  refine ⟨⟨?_, by decide⟩, ⟨?_, by decide⟩, ⟨?_, by decide⟩, ⟨?_, by decide⟩, ⟨?_, by decide⟩⟩
  · exact lateAlt.reportsImage_iff.mpr (.inl (by decide +kernel))
  · exact fun h => (longerName.reportsImage_iff.mp h).elim (by decide +kernel)
      (longerName.nothing_within (by decide +kernel)).1
  · exact bareAlt.reportsImage_iff.mpr (.inl (by decide +kernel))
  · exact fun h => (lateClass.reportsControl_iff.mp h).elim (by decide +kernel)
      (lateClass.nothing_within (by decide +kernel)).2
  · exact quotedClass.reportsControl_iff.mpr (.inl (by decide +kernel))

end AppMend.Check
