import AppMend.Check.Tags

/-!
# Well-nested markup

Elements with attributes, one inside another and with words between them (`Markup`), and the text that they
are written as (`Markup.render`). An opening tag is read as it is written, whatever the values of its
attributes hold: the search for its end passes over all of it (`tagEnd?_tail`), and what follows its name
never makes it a parameter of a type (`Tag.isTypeParameter_tail`).
-/

namespace AppMend.Check

open Text

/-! ## Markup -/

abbrev Blanks := {s : List Char // s.all isBlank = true}

/-- A character of the text between two tags. -/
def isWordsPart (c : Char) : Bool := !"<>\x7b\x7d".toList.contains c

/-- The text between two tags. -/
abbrev Words := {s : List Char // s.all isWordsPart = true}

/-- A character of a name in markup: not a blank, and not one that has a meaning of its own. -/
def isMarkupName (c : Char) : Bool := !isBlank c && !"<>\x7b\x7d\"'`/=,\\".toList.contains c

/-- A character of a value between double quotes. -/
def isValuePart (c : Char) : Bool := c != '"' && c != '\\' && c != '\n'

/-- An attribute and the blanks before it. Its value stands between double quotes. -/
structure Attribute where
  gap : Blanks := ⟨[' '], by decide⟩
  name : List Char
  value : List Char
  gap_ne : gap.val ≠ [] := by decide
  all_name : name.all isMarkupName = true := by decide
  all_value : value.all isValuePart = true := by decide

def Attribute.text (a : Attribute) : List Char := a.gap.val ++ a.name ++ '=' :: '"' :: a.value ++ ['"']

/-- What stands in an opening tag: its name, its attributes, and the blanks before its end. -/
structure Tag where
  name : List Char
  attributes : List Attribute := []
  gap : Blanks := ⟨[], by decide⟩
  name_ne : name ≠ [] := by decide
  all_name : name.all isMarkupName = true := by decide

/-- What follows the name in a tag, up to its end. -/
def Tag.tail (t : Tag) : List Char := t.attributes.flatMap Attribute.text ++ t.gap.val

def Tag.text (t : Tag) : List Char := t.name ++ t.tail

/-- Well-nested markup: elements with texts before, between and behind them. -/
inductive Markup where
  | words (w : Words)
  | selfClosing (before : Words) (tag : Tag) (rest : Markup)
  | element (before : Words) (tag : Tag) (children : Markup) (gap : Blanks) (rest : Markup)

def Markup.render : Markup → List Char
  | words w => w.val
  | selfClosing w tag rest => w.val ++ '<' :: (tag.text ++ '/' :: '>' :: rest.render)
  | element w tag children gap rest =>
    w.val ++ '<' :: (tag.text ++ '>' :: (children.render ++
      '<' :: '/' :: (tag.name ++ (gap.val ++ '>' :: rest.render))))

variable {s u v : List Char} {c : Char}

/-! ## The parts of a tag -/

theorem Attribute.isMarkupName_of_mem (a : Attribute) : ∀ c ∈ a.name, isMarkupName c = true :=
  List.all_eq_true.mp a.all_name

theorem Tag.isMarkupName_of_mem (t : Tag) : ∀ c ∈ t.name, isMarkupName c = true :=
  List.all_eq_true.mp t.all_name

theorem isBlank_of_mem (gap : Blanks) : ∀ c ∈ gap.val, isBlank c = true := List.all_eq_true.mp gap.property

theorem isTagNamePart_eq (c : Char) : isTagNamePart c =
    (c.isUpper || c.isLower || c.isDigit || c == '_' || c == '$' || c == '.') := rfl

theorem bounds_of_tagNamePart (h : isTagNamePart c = true) : 36 ≤ c.toNat ∧ c.toNat ≤ 122 := by
  have hupper : c.isUpper = decide ('A'.toNat ≤ c.toNat ∧ c.toNat ≤ 'Z'.toNat) := rfl
  have hlower : c.isLower = (decide ('a'.toNat ≤ c.toNat) && decide (c.toNat ≤ 'z'.toNat)) := rfl
  have hdigit : c.isDigit = (decide ('0'.toNat ≤ c.toNat) && decide (c.toNat ≤ '9'.toNat)) := rfl
  rw [isTagNamePart_eq, hupper, hlower, hdigit] at h
  simp only [Bool.or_eq_true, Bool.and_eq_true, decide_eq_true_eq, beq_iff_eq] at h
  rcases h with ((((⟨h, h'⟩ | ⟨h, h'⟩) | ⟨h, h'⟩) | rfl) | rfl) | rfl
  · exact ⟨Nat.le_trans (by decide) h, Nat.le_trans h' (by decide)⟩
  · exact ⟨Nat.le_trans (by decide) h, Nat.le_trans h' (by decide)⟩
  · exact ⟨Nat.le_trans (by decide) h, Nat.le_trans h' (by decide)⟩
  all_goals decide

theorem not_tagNamePart_of_blank (h : isBlank c = true) : isTagNamePart c = false := by
  refine Bool.eq_false_iff.mpr fun hpart => ?_
  obtain ⟨hle, hge⟩ := bounds_of_tagNamePart hpart
  simp only [isBlank, Bool.or_eq_true, Bool.and_eq_true, decide_eq_true_eq, beq_iff_eq] at h
  omega

theorem ne_of_blank (h : isBlank c = true) : c ≠ '/' ∧ c ≠ '<' := by
  constructor <;> rintro rfl <;> revert h <;> decide

theorem ne_of_markupName (h : isMarkupName c = true) :
    isBlank c = false ∧ c ≠ '\n' ∧ c ≠ '/' ∧ c ≠ '<' ∧ c ≠ ',' := by
  refine ⟨by simp_all [isMarkupName], ?_, ?_, ?_, ?_⟩ <;> rintro rfl <;> revert h <;> decide

theorem getLast?_attributes (as : List Attribute) :
    (as.flatMap Attribute.text).getLast? = none ∨ (as.flatMap Attribute.text).getLast? = some '"' := by
  rcases List.eq_nil_or_concat as with rfl | ⟨as, a, rfl⟩
  · exact .inl rfl
  · refine .inr ?_
    rw [List.concat_eq_append, List.flatMap_append, List.flatMap_singleton, List.getLast?_append]
    simp [Attribute.text, List.getLast?_cons]

theorem Tag.getLast?_text (t : Tag) : t.text.getLast? ≠ some '/' := by
  rw [Tag.text, Tag.tail, List.getLast?_append, List.getLast?_append]
  intro h
  cases hgap : t.gap.val.getLast? with
  | some c =>
      rw [hgap] at h
      obtain rfl : c = '/' := by simpa using h
      exact (ne_of_blank (isBlank_of_mem t.gap _ (List.mem_of_getLast? hgap))).1 rfl
  | none =>
      rw [hgap] at h
      rcases getLast?_attributes t.attributes with has | has
      · rw [has] at h
        exact (ne_of_markupName (t.isMarkupName_of_mem _ (List.mem_of_getLast? (by simpa using h)))).2.2.1 rfl
      · rw [has] at h
        simp at h

theorem head_gap (gap : Blanks) (hs : ∀ c ∈ s.head?, isTagNamePart c = false) :
    ∀ c ∈ (gap.val ++ s).head?, isTagNamePart c = false := by
  intro c hc
  cases hgap : gap.val with
  | nil =>
      rw [hgap] at hc
      exact hs c hc
  | cons d u =>
      obtain rfl : d = c := by simpa [hgap] using hc
      exact not_tagNamePart_of_blank (isBlank_of_mem gap d (hgap ▸ List.mem_cons_self))

/-- Behind the name of an opening tag stands no character of a name. -/
theorem Tag.head_tail (t : Tag) (hs : ∀ c ∈ s.head?, isTagNamePart c = false) :
    ∀ c ∈ (t.tail ++ s).head?, isTagNamePart c = false := by
  cases has : t.attributes with
  | nil =>
      rw [Tag.tail, has]
      exact head_gap t.gap hs
  | cons a as =>
      intro c hc
      obtain ⟨d, gap, hgap⟩ := List.exists_cons_of_ne_nil a.gap_ne
      obtain rfl : d = c := by simpa [Tag.tail, has, Attribute.text, hgap] using hc
      exact not_tagNamePart_of_blank (isBlank_of_mem a.gap d (hgap ▸ List.mem_cons_self))

theorem takeWhile_name (hs : ∀ c ∈ s.head?, isTagNamePart c = false) (name : List Char) :
    (name ++ s).takeWhile isTagNamePart = name.takeWhile isTagNamePart ∧
      (name ++ s).dropWhile isTagNamePart = name.dropWhile isTagNamePart ++ s := by
  have hstop : s.takeWhile isTagNamePart = [] ∧ s.dropWhile isTagNamePart = s := by
    cases s with
    | nil => exact ⟨rfl, rfl⟩
    | cons c s => simp [hs c rfl]
  constructor
  · rw [List.takeWhile_append, hstop.1, List.append_nil]
    split
    · rename_i hall
      exact (List.IsPrefix.eq_of_length (List.takeWhile_prefix _) hall).symm
    · rfl
  · rw [List.dropWhile_append, hstop.2]
    split
    · rename_i hall
      rw [List.isEmpty_iff.mp hall]
      rfl
    · rfl

/-! ## How the scan reads a tag -/

/-- A character of a tag that the search for its end takes no notice of. -/
def isTagFiller (c : Char) : Bool := !"<>\x7b\x7d\"'`/".toList.contains c

theorem isTagFiller_of_blank (h : isBlank c = true) : isTagFiller c = true := by
  rw [isTagFiller, Bool.not_eq_true', List.contains_eq_mem, decide_eq_false_iff_not]
  intro hc
  have hnone : "<>\x7b\x7d\"'`/".toList.all (!isBlank ·) = true := by decide
  simpa [h] using List.all_eq_true.mp hnone c hc

theorem isTagFiller_of_markupName (h : isMarkupName c = true) : isTagFiller c = true := by
  rw [isTagFiller, Bool.not_eq_true', List.contains_eq_mem, decide_eq_false_iff_not]
  intro hc
  have hnone : "<>\x7b\x7d\"'`/".toList.all (!isMarkupName ·) = true := by decide
  simpa [h] using List.all_eq_true.mp hnone c hc

theorem tagEnd?_filler (hu : ∀ c ∈ u, isTagFiller c = true) (last : Char) (n : Nat) (hlast : last ≠ '/') :
    ∃ last' n', last' ≠ '/' ∧ ∀ s, tagEnd? .plain 0 last n (u ++ s) = tagEnd? .plain 0 last' n' s := by
  induction u generalizing last n with
  | nil => exact ⟨last, n, hlast, fun _ => rfl⟩
  | cons c u ih =>
      obtain ⟨hc, hu⟩ := List.forall_mem_cons.mp hu
      have hne : c ≠ '<' ∧ c ≠ '>' ∧ c ≠ '\x7b' ∧ c ≠ '\x7d' ∧ c ≠ '"' ∧ c ≠ '\'' ∧ c ≠ Char.ofNat 96 ∧
          c ≠ '/' := by
        simpa [isTagFiller] using hc
      obtain ⟨h1, h2, h3, h4, h5, h6, h7, h8⟩ := hne
      obtain ⟨last', n', hlast', h⟩ := ih hu (if isAsciiBlank c then last else c)
        (if c = '\n' then n + 1 else n) (by split <;> assumption)
      refine ⟨last', n', hlast', fun s => ?_⟩
      rw [List.cons_append, tagEnd?]
      simp only [h1, h2, h3, h4, h5, h6, h7, false_or, false_and, if_false]
      exact h s

theorem tagEnd?_value (hv : v.all isValuePart = true) (last : Char) (n : Nat) :
    ∀ s, tagEnd? (.quoted '"') 0 last n (v ++ '"' :: s) = tagEnd? .plain 0 '"' n s := by
  intro s
  induction v generalizing last with
  | nil => rfl
  | cons c v ih =>
      rw [List.all_cons, Bool.and_eq_true] at hv
      obtain ⟨⟨hmark, hslash⟩, hfeed⟩ : (c ≠ '"' ∧ c ≠ '\\') ∧ c ≠ '\n' := by simpa [isValuePart] using hv.1
      rw [List.cons_append, tagEnd?]
      simp only [hmark, hslash, hfeed, if_false]
      exact ih hv.2 _

theorem tagEnd?_attributes (as : List Attribute) (last : Char) (n : Nat) (hlast : last ≠ '/') :
    ∃ last' n', last' ≠ '/' ∧ ∀ s,
      tagEnd? .plain 0 last n (as.flatMap Attribute.text ++ s) = tagEnd? .plain 0 last' n' s := by
  induction as generalizing last n with
  | nil => exact ⟨last, n, hlast, fun _ => rfl⟩
  | cons a as ih =>
      have hfiller : ∀ c ∈ a.gap.val ++ a.name ++ ['='], isTagFiller c = true := by
        intro c hc
        rcases List.mem_append.mp hc with hc | hc
        · rcases List.mem_append.mp hc with hc | hc
          · exact isTagFiller_of_blank (isBlank_of_mem a.gap c hc)
          · exact isTagFiller_of_markupName (a.isMarkupName_of_mem c hc)
        · rw [List.mem_singleton.mp hc]
          rfl
      obtain ⟨last₁, n₁, -, h₁⟩ := tagEnd?_filler hfiller last n hlast
      obtain ⟨last', n', hlast', h⟩ := ih '"' n₁ (by decide)
      refine ⟨last', n', hlast', fun s => ?_⟩
      have htext : (a :: as).flatMap Attribute.text ++ s =
          (a.gap.val ++ a.name ++ ['=']) ++ '"' :: (a.value ++ '"' :: (as.flatMap Attribute.text ++ s)) := by
        simp [Attribute.text]
      rw [htext, h₁, ← h]
      exact tagEnd?_value a.all_value '"' n₁ _

theorem tagEnd?_tail (t : Tag) : ∃ last n, last ≠ '/' ∧ ∀ s,
    tagEnd? .plain 0 ' ' 0 (t.name.dropWhile isTagNamePart ++ (t.tail ++ s)) = tagEnd? .plain 0 last n s := by
  have hname : ∀ c ∈ t.name.dropWhile isTagNamePart, isTagFiller c = true := fun c hc =>
    isTagFiller_of_markupName (t.isMarkupName_of_mem c ((List.dropWhile_sublist _).subset hc))
  have hgap : ∀ c ∈ t.gap.val, isTagFiller c = true := fun c hc =>
    isTagFiller_of_blank (isBlank_of_mem t.gap c hc)
  obtain ⟨last₁, n₁, hlast₁, h₁⟩ := tagEnd?_filler hname ' ' 0 (by decide)
  obtain ⟨last₂, n₂, hlast₂, h₂⟩ := tagEnd?_attributes t.attributes last₁ n₁ hlast₁
  obtain ⟨last, n, hlast, h⟩ := tagEnd?_filler hgap last₂ n₂ hlast₂
  refine ⟨last, n, hlast, fun s => ?_⟩
  rw [h₁, Tag.tail, List.append_assoc, h₂, h]

/-- A name of an attribute, or the end of a tag, makes what is before it no parameter of a type. -/
theorem not_typeParameter (hu : ∀ d ∈ u, isBlank d = true) (hv : ∀ d ∈ v, isMarkupName d = true)
    (hblank : isBlank c = false) (hcomma : c ≠ ',') (hword : c ∉ "extends ".toList) :
    isTypeParameter (u ++ (v ++ c :: s)) = false := by
  have hprefix : "extends ".toList.isPrefixOf (v ++ c :: s) = false := by
    refine Bool.eq_false_iff.mpr fun h => ?_
    obtain ⟨rest, hrest⟩ := List.isPrefixOf_iff_prefix.mp h
    rcases List.append_eq_append_iff.mp hrest with ⟨w, rfl, -⟩ | ⟨w, hw, hcons⟩
    · exact absurd (hv ' ' (List.mem_append_left _ (by decide))) (by decide)
    · cases w with
      | nil =>
          rw [List.append_nil] at hw
          exact absurd (hv ' ' (hw ▸ by decide)) (by decide)
      | cons d w =>
          obtain rfl : c = d := (List.cons.inj hcons).1
          exact hword (hw ▸ List.mem_append_right _ List.mem_cons_self)
  obtain ⟨d, w, hw, hd, hd'⟩ : ∃ d w, v ++ c :: s = d :: w ∧ isBlank d = false ∧ d ≠ ',' := by
    cases v with
    | nil => exact ⟨c, s, rfl, hblank, hcomma⟩
    | cons d v =>
        obtain ⟨hd, -, -, -, hd'⟩ := ne_of_markupName (hv d List.mem_cons_self)
        exact ⟨d, _, rfl, hd, hd'⟩
  have hdrop : (u ++ (v ++ c :: s)).dropWhile isBlank = v ++ c :: s := by
    rw [List.dropWhile_append_of_pos hu, hw, List.dropWhile_cons_of_neg (Bool.eq_false_iff.mp hd)]
  rw [isTypeParameter, hdrop, hprefix, Bool.or_false, hw]
  exact beq_eq_false_iff_ne.mpr fun h => hd' (Option.some.inj h)

theorem Tag.isTypeParameter_tail (t : Tag) (hc : c = '>' ∨ c = '/') :
    isTypeParameter (t.name.dropWhile isTagNamePart ++ (t.tail ++ c :: s)) = false := by
  have hend : isBlank c = false ∧ c ≠ ',' ∧ c ∉ "extends ".toList := by
    rcases hc with rfl | rfl <;> decide
  cases hname : t.name.dropWhile isTagNamePart with
  | cons d name =>
      have hpart : isTagNamePart d = false := by
        have := List.head?_dropWhile_not isTagNamePart t.name
        rw [hname] at this
        simpa using this
      have hd : d ∈ t.name := (List.dropWhile_sublist _).subset (hname ▸ List.mem_cons_self)
      obtain ⟨hblank, -, -, -, hcomma⟩ := ne_of_markupName (t.isMarkupName_of_mem d hd)
      refine not_typeParameter (u := []) (v := []) (by simp) (by simp) hblank hcomma fun hword => ?_
      have hall : "extends ".toList.all (fun d => isTagNamePart d || isBlank d) = true := by decide
      simpa [hpart, hblank] using List.all_eq_true.mp hall d hword
  | nil =>
      cases has : t.attributes with
      | nil =>
          rw [Tag.tail, has]
          exact not_typeParameter (v := []) (isBlank_of_mem t.gap) (by simp) hend.1 hend.2.1 hend.2.2
      | cons a as =>
          rw [Tag.tail, has]
          simp only [List.flatMap_cons, Attribute.text, List.append_assoc, List.cons_append, List.nil_append]
          exact not_typeParameter (isBlank_of_mem a.gap) a.isMarkupName_of_mem (by decide) (by decide)
            (by decide)

/-- The part of a name that the scan reads. -/
def Tag.readName (t : Tag) : List Char := t.name.takeWhile isTagNamePart

/-- As much as the scan reads of a name tells whether it is one of a component. -/
theorem Tag.isComponentName_readName (t : Tag) : isComponentName t.readName = isComponentName t.name := by
  rw [Tag.readName]
  cases hname : t.name with
  | nil => exact absurd hname t.name_ne
  | cons c name =>
      rw [List.takeWhile_cons]
      split
      · rfl
      · rename_i hpart
        refine (Bool.eq_false_iff.mpr fun hupper : c.isUpper = true => hpart ?_).symm
        rw [isTagNamePart_eq, hupper]
        rfl

end AppMend.Check
