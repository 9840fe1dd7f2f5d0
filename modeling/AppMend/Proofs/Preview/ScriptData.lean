import AppMend.Preview.Harness
import Mathlib.Data.List.Infix

/-!
# The scripts of a page

How the script elements of a page are read (`scripts`). Outside of tags only the opening tag of a script is of
interest. Inside an element the reading is plain at first; `<!--` makes it escaped, and then the opening tag of
a script makes it doubly escaped, in which a closing tag does not end the element but only takes one level
back. `-->` makes it plain again.

What is read at a character is told by what follows it (`Mode.next?`). A text that ends with a character that
marks have at their ends only is read for itself, whatever follows (`after?_stop`). A text that closes no
element is doubly escaped in the end exactly if it swallows what follows (`after?_eq_doubled_iff`).
-/

namespace AppMend.Preview

/-! ## Marks -/

/-- What is looked for: a class of characters for each place. -/
abbrev Mark := List (Char → Bool)

/-- Whether a text begins with a mark. -/
def begins : Mark → List Char → Bool
  | [], _ => true
  | _ :: _, [] => false
  | p :: m, c :: s => p c && begins m s

def Mark.exactly (s : List Char) : Mark := s.map fun c d => d == c

/-- A text in lower case, in either case. -/
def Mark.anyCase (s : List Char) : Mark := s.map fun c d => d.toLower == c

/-- What can stand behind the name of a tag. -/
def endsName (c : Char) : Bool := Text.isAsciiBlank c || c == '/' || c == '>'

def scriptName : Mark := .anyCase ['s', 'c', 'r', 'i', 'p', 't'] ++ [endsName]

def openingTag : Mark := .exactly ['<'] ++ scriptName

def closingTag : Mark := .exactly ['<', '/'] ++ scriptName

def commentStart : Mark := .exactly ['<', '!', '-', '-']

def commentEnd : Mark := .exactly ['-', '-', '>']

/-! ## Reading -/

/-- How the text of a script is read. -/
inductive Depth where
  | plain
  | escaped
  | doubled
deriving DecidableEq

/-- How it is read on, by what it goes on with. -/
def Depth.next (s : List Char) : Depth → Depth
  | plain => if begins commentStart s then escaped else plain
  | escaped => if begins commentEnd s then plain else if begins openingTag s then doubled else escaped
  | doubled => if begins commentEnd s then plain else if begins closingTag s then escaped else doubled

/-- Whether the element ends before a text. -/
def Depth.ends (s : List Char) (d : Depth) : Bool := d != doubled && begins closingTag s

inductive Mode where
  | outside
  /-- In a tag, which opens a script or not, and between these quotes. -/
  | tag (opens : Bool) (quote : Option Char)
  /-- In a script, with what was read of it, backwards. -/
  | inside (depth : Depth) (read : List Char)
deriving DecidableEq

/-- The mode after one character, unless an element ends before it. -/
def Mode.next? : Mode → List Char → Option Mode
  | m, [] => some m
  | outside, c :: s => some (if begins openingTag (c :: s) then tag true none else outside)
  | tag opens none, c :: _ =>
    some (if c = '>' then (if opens then inside .plain [] else outside)
      else tag opens (if c = '"' ∨ c = '\'' then some c else none))
  | tag opens (some q), c :: _ => some (tag opens (if c = q then none else some q))
  | inside d read, c :: s =>
    if d.ends (c :: s) then none else some (inside (d.next (c :: s)) (c :: read))

/-- The text of the element that is read. -/
def Mode.text : Mode → List Char
  | inside _ read => read.reverse
  | outside | tag .. => []

/-- A script element: its text, and the page from its closing tag on, if it has one. -/
structure Element where
  text : List Char
  rest : Option (List Char)
deriving DecidableEq

/-- The script elements of a page that is read on in a mode. -/
def readScripts : Mode → List Char → List Element
  | .inside _ read, [] => [⟨read.reverse, none⟩]
  | _, [] => []
  | m, c :: s =>
    match m.next? (c :: s) with
    | some m' => readScripts m' s
    | none => ⟨m.text, some (c :: s)⟩ :: readScripts (.tag false none) s

/-- The script elements of a page. -/
def scripts (page : List Char) : List Element := readScripts .outside page

/-- The mode after a text and before another, unless an element ends in the first. -/
def Mode.after? : Mode → List Char → List Char → Option Mode
  | m, [], _ => some m
  | m, c :: u, v => (m.next? (c :: u ++ v)).bind (·.after? u v)

/-- The same of the text of an element. -/
def Depth.after? : Depth → List Char → List Char → Option Depth
  | d, [], _ => some d
  | d, c :: u, v => if d.ends (c :: u ++ v) then none else (d.next (c :: u ++ v)).after? u v

variable {m m' : Mode} {d : Depth} {mark : Mark} {c x : Char} {s t u v : List Char}

theorem readScripts_cons : readScripts m (c :: s) =
    match m.next? (c :: s) with
    | some m' => readScripts m' s
    | none => ⟨m.text, some (c :: s)⟩ :: readScripts (.tag false none) s := by
  cases m <;> rfl

/-- A text in which no element ends is passed. -/
theorem readScripts_append (h : m.after? u v = some m') :
    readScripts m (u ++ v) = readScripts m' v := by
  induction u generalizing m with
  | nil =>
      cases h
      rfl
  | cons c u ih =>
      obtain ⟨m₁, hnext, hafter⟩ := Option.bind_eq_some_iff.mp h
      rw [List.cons_append, readScripts_cons, ← List.cons_append, hnext]
      exact ih hafter

theorem Mode.after?_append (m : Mode) (s t v : List Char) :
    m.after? (s ++ t) v = (m.after? s (t ++ v)).bind (·.after? t v) := by
  induction s generalizing m with
  | nil => rfl
  | cons c s ih =>
      have htext : c :: (s ++ t) ++ v = c :: s ++ (t ++ v) := congrArg (c :: ·) (List.append_assoc s t v)
      rw [List.cons_append, Mode.after?, Mode.after?, htext, Option.bind_assoc]
      exact congrArg _ (funext ih)

theorem Mode.after?_inside (d : Depth) (read u v : List Char) :
    (inside d read).after? u v = (d.after? u v).map (inside · (u.reverse ++ read)) := by
  induction u generalizing d read with
  | nil => rfl
  | cons c u ih =>
      show (if d.ends (c :: u ++ v) = true then _ else _ : Option Mode).bind _ =
        (if d.ends (c :: u ++ v) = true then _ else _ : Option Depth).map _
      split
      · rfl
      · rw [List.reverse_cons, List.append_assoc]
        exact ih (d.next (c :: u ++ v)) (c :: read)

/-! ## Looking ahead -/

/-- All that is looked for. -/
def marks : List Mark := [openingTag, closingTag, commentStart, commentEnd]

/-- Whether none of the classes has a character. -/
def Mark.avoids (x : Char) (mark : Mark) : Bool := mark.all fun p => !p x

theorem Mark.avoids_iff : mark.avoids x = true ↔ ∀ p ∈ mark, p x = false := by
  simp [avoids]

/-- A character that no mark has, but at its end. -/
def isStop (x : Char) : Bool := marks.all fun mark => Mark.avoids x mark.dropLast

/-- No mark is found across such a character. -/
theorem begins_stop (hx : isStop x = true) (hmark : mark ∈ marks) (u v : List Char) :
    begins mark (u ++ x :: v) = begins mark (u ++ [x]) := by
  have hx : ∀ p ∈ mark.dropLast, p x = false := Mark.avoids_iff.mp (List.all_eq_true.mp hx mark hmark)
  clear hmark
  induction mark generalizing u with
  | nil => rfl
  | cons p mark ih =>
      cases mark with
      | nil => cases u <;> simp [begins]
      | cons q mark =>
          rw [List.dropLast_cons_cons, List.forall_mem_cons] at hx
          cases u with
          | nil => simp [begins, hx.1]
          | cons c u =>
              show (p c && begins _ (u ++ x :: v)) = (p c && begins _ (u ++ [x]))
              rw [ih u hx.2]

/-- Of what follows, only its first character counts and the marks that it begins with. -/
theorem Mode.next?_congr (m : Mode) (hhead : s.head? = t.head?)
    (h : ∀ mark ∈ marks, begins mark s = begins mark t) : m.next? s = m.next? t := by
  cases s with
  | nil =>
      cases List.head?_eq_none_iff.mp hhead.symm
      rfl
  | cons c s =>
      obtain ⟨t, rfl⟩ : ∃ t', t = c :: t' := List.head?_eq_some_iff.mp hhead.symm
      obtain ⟨hopening, hclosing, hstart, hend, -⟩ : _ ∧ _ ∧ _ ∧ _ ∧ _ := by
        simpa only [marks, List.forall_mem_cons] using h
      have hends (d : Depth) : d.ends (c :: s) = d.ends (c :: t) := congrArg (d != .doubled && ·) hclosing
      have hdepth (d : Depth) : d.next (c :: s) = d.next (c :: t) := by
        cases d <;> simp only [Depth.next, hopening, hclosing, hstart, hend]
      cases m with
      | outside => exact congrArg (fun b => some (if b = true then tag true none else outside)) hopening
      | tag opens quote => cases quote <;> rfl
      | inside d read =>
          show (if d.ends (c :: s) = true then _ else _) = if d.ends (c :: t) = true then _ else _
          rw [hends, hdepth]

/-- **A text that ends with such a character is read for itself**, whatever follows. -/
theorem Mode.after?_stop (hx : isStop x = true) (hu : u.getLast? = some x) (m : Mode) (v : List Char) :
    m.after? u v = m.after? u [] := by
  obtain ⟨u, rfl⟩ := List.getLast?_eq_some_iff.mp hu
  clear hu
  have hnext (m : Mode) (u : List Char) : m.next? (u ++ [x] ++ v) = m.next? (u ++ [x] ++ []) := by
    rw [List.append_assoc, List.append_nil]
    refine m.next?_congr (by cases u <;> rfl) fun mark hmark => begins_stop hx hmark u v
  induction u generalizing m with
  | nil => exact congrArg (Option.bind · _) (hnext m [])
  | cons c u ih =>
      show (m.next? (c :: u ++ [x] ++ v)).bind _ = (m.next? (c :: u ++ [x] ++ [])).bind _
      rw [hnext]
      exact congrArg _ (funext ih)

theorem Depth.after?_stop (hx : isStop x = true) (hu : u.getLast? = some x) (d : Depth) (v : List Char) :
    d.after? u v = d.after? u [] := by
  have hmode := Mode.after?_stop hx hu (.inside d []) v
  rw [Mode.after?_inside, Mode.after?_inside] at hmode
  exact Option.map_injective (fun _ _ h => (Mode.inside.inj h).1) hmode

theorem Depth.after?_append (d : Depth) (s t v : List Char) :
    d.after? (s ++ t) v = (d.after? s (t ++ v)).bind (·.after? t v) := by
  induction s generalizing d with
  | nil => rfl
  | cons c s ih =>
      have htext : c :: (s ++ t) ++ v = c :: s ++ (t ++ v) := congrArg (c :: ·) (List.append_assoc s t v)
      rw [List.cons_append, Depth.after?, Depth.after?, htext]
      split
      · rfl
      · exact ih _

/-! ## Texts that are passed -/

/-- A text leads from one mode to another, whatever follows. -/
def Leads (m : Mode) (u : List Char) (m' : Mode) : Prop := ∀ v, m.after? u v = some m'

theorem Leads.append {m₁ : Mode} (h : Leads m u m₁) (h' : Leads m₁ t m') : Leads m (u ++ t) m' := by
  intro v
  rw [Mode.after?_append, h, Option.bind_some, h']

theorem leads_of_stop (hx : isStop x = true) (hu : u.getLast? = some x) (h : m.after? u [] = some m') :
    Leads m u m' := fun v => (Mode.after?_stop hx hu m v).trans h

theorem begins_of_head {p : Char → Bool} (h : p c = false) : begins (p :: mark) (c :: s) = false := by
  rw [begins, h, Bool.false_and]

/-- Nothing opens without a `<`. -/
theorem leads_outside (h : '<' ∉ u) : Leads .outside u .outside := by
  intro v
  induction u with
  | nil => rfl
  | cons c u ih =>
      obtain ⟨hc, hu⟩ := not_or.mp (mt List.mem_cons.mpr h)
      have hbegins : begins openingTag (c :: (u ++ v)) = false := begins_of_head (by simpa using Ne.symm hc)
      show (some (if begins openingTag (c :: (u ++ v)) = true then _ else _)).bind _ = _
      rw [hbegins]
      exact ih hu

theorem leads_quoted {q : Char} (opens : Bool) (h : q ∉ u) :
    Leads (.tag opens (some q)) u (.tag opens (some q)) := by
  intro v
  induction u with
  | nil => rfl
  | cons c u ih =>
      obtain ⟨hc, hu⟩ := not_or.mp (mt List.mem_cons.mpr h)
      show (some (Mode.tag opens (if c = q then none else some q))).bind _ = _
      rw [if_neg (Ne.symm hc)]
      exact ih hu

/-- A plain text without a `<` stays plain. -/
theorem after?_plain (h : '<' ∉ u) (v : List Char) : Depth.plain.after? u v = some .plain := by
  induction u with
  | nil => rfl
  | cons c u ih =>
      obtain ⟨hc, hu⟩ := not_or.mp (mt List.mem_cons.mpr h)
      have hc : (c == '<') = false := by simpa using Ne.symm hc
      have hends : Depth.plain.ends (c :: (u ++ v)) = false := begins_of_head hc
      have hstart : begins commentStart (c :: (u ++ v)) = false := begins_of_head hc
      show (if Depth.plain.ends (c :: (u ++ v)) = true then _ else
        (if begins commentStart (c :: (u ++ v)) = true then _ else Depth.plain).after? u v) = _
      rw [hends, hstart]
      exact ih hu

/-- A mark is not found in a text that has nothing of one of its classes. -/
theorem begins_of_not_mem {p : Char → Bool} (hp : p ∈ mark) (h : ∀ c ∈ s, p c = false) :
    begins mark s = false := by
  induction mark generalizing s with
  | nil => cases hp
  | cons q mark ih =>
      cases s with
      | nil => rfl
      | cons c s =>
          obtain ⟨hc, hs⟩ := List.forall_mem_cons.mp h
          rcases List.mem_cons.mp hp with rfl | hp
          · exact begins_of_head hc
          · rw [begins, ih hp hs, Bool.and_false]

/-- Without tags and ends of comments a text stays doubly escaped. -/
theorem after?_doubled (hlt : '<' ∉ u) (hgt : '>' ∉ u) : Depth.doubled.after? u [] = some .doubled := by
  induction u with
  | nil => rfl
  | cons c u ih =>
      have hnot {x : Char} (h : x ∉ c :: u) (d : Char) (hd : d ∈ c :: u) : (d == x) = false := by
        simpa using fun he : d = x => h (he ▸ hd)
      have hend : begins commentEnd (c :: u) = false :=
        begins_of_not_mem (List.mem_cons_of_mem _ (List.mem_cons_of_mem _ List.mem_cons_self)) (hnot hgt)
      have hclosing : begins closingTag (c :: u) = false := begins_of_not_mem List.mem_cons_self (hnot hlt)
      rw [Depth.after?, List.append_nil, Depth.next, hend, hclosing]
      exact ih (fun h => hlt (List.mem_cons_of_mem _ h)) fun h => hgt (List.mem_cons_of_mem _ h)

/-! ## Texts that swallow what follows -/

/-- A text goes on with a mark somewhere. -/
def Has (mark : Mark) (s : List Char) : Prop := ∃ v, v <:+ s ∧ begins mark v = true

/-- Some `<!--` of a text has no `-->` after it, not even one that shares its dashes, but the opening tag of a
script. -/
def Swallows (s : List Char) : Prop :=
  ∃ v, v <:+ s ∧ begins commentStart v = true ∧ ¬Has commentEnd v ∧ Has openingTag v

instance (mark : Mark) (s : List Char) : Decidable (Has mark s) :=
  decidable_of_iff (∃ v ∈ s.tails, begins mark v = true) (by simp only [List.mem_tails, Has])

instance (s : List Char) : Decidable (Swallows s) :=
  decidable_of_iff
    (∃ v ∈ s.tails, begins commentStart v = true ∧ ¬Has commentEnd v ∧ Has openingTag v)
    (by simp only [List.mem_tails, Swallows])

/-- What holds of a text that a longer one ends with. -/
theorem exists_suffix_cons_iff {P : List Char → Prop} :
    (∃ v, v <:+ c :: s ∧ P v) ↔ P (c :: s) ∨ ∃ v, v <:+ s ∧ P v := by
  simp only [List.suffix_cons_iff, or_and_right, exists_or, exists_eq_left]

theorem has_cons_iff : Has mark (c :: s) ↔ begins mark (c :: s) = true ∨ Has mark s :=
  exists_suffix_cons_iff

theorem swallows_cons_iff : Swallows (c :: s) ↔
    (begins commentStart (c :: s) = true ∧ ¬Has commentEnd (c :: s) ∧ Has openingTag (c :: s)) ∨
      Swallows s :=
  exists_suffix_cons_iff

theorem head_of_commentEnd (h : begins commentEnd (c :: s) = true) : c = '-' := by
  simpa using (Bool.and_eq_true_iff.mp h).1

theorem head_of_commentStart (h : begins commentStart (c :: s) = true) : c = '<' ∧ s.head? = some '!' := by
  obtain ⟨hc, h⟩ := Bool.and_eq_true_iff.mp h
  cases s with
  | nil => cases h
  | cons d s =>
      have hd : d = '!' := by simpa using (Bool.and_eq_true_iff.mp h).1
      exact ⟨by simpa using hc, congrArg some hd⟩

theorem head_of_openingTag (h : begins openingTag (c :: s) = true) : c = '<' ∧ s.head? ≠ some '!' := by
  obtain ⟨hc, h⟩ := Bool.and_eq_true_iff.mp h
  refine ⟨by simpa using hc, fun hs => ?_⟩
  obtain ⟨s, rfl⟩ := List.head?_eq_some_iff.mp hs
  exact absurd (Bool.and_eq_true_iff.mp h).1 (by decide)

/-- A text that closes no element is read to its end. -/
theorem exists_after? (h : ¬Has closingTag s) (d : Depth) : ∃ d', d.after? s [] = some d' := by
  induction s generalizing d with
  | nil => exact ⟨d, rfl⟩
  | cons c s ih =>
      rw [has_cons_iff, not_or] at h
      have hends : d.ends (c :: s ++ []) = false := by
        rw [List.append_nil, Depth.ends, Bool.eq_false_iff.mpr h.1, Bool.and_false]
      unfold Depth.after?
      rw [hends]
      exact ih h.2 _

/-- **A text that closes no element swallows what follows exactly if it is doubly escaped in the end.** -/
theorem after?_eq_doubled_iff (h : ¬Has closingTag s) :
    (Depth.plain.after? s [] = some .doubled ↔ Swallows s) ∧
    (Depth.escaped.after? s [] = some .doubled ↔ Swallows s ∨ ¬Has commentEnd s ∧ Has openingTag s) ∧
    (Depth.doubled.after? s [] = some .doubled ↔ Swallows s ∨ ¬Has commentEnd s) := by
  induction s with
  | nil =>
      have hnone {mark : Mark} (hmark : begins mark [] = false) : ¬Has mark [] := by
        rintro ⟨v, hv, h⟩
        rw [List.suffix_nil.mp hv, hmark] at h
        cases h
      have hswallows : ¬Swallows [] := by
        rintro ⟨v, hv, h, -⟩
        rw [List.suffix_nil.mp hv] at h
        cases h
      have hopening : ¬Has openingTag [] := hnone rfl
      have hend : ¬Has commentEnd [] := hnone rfl
      simp [Depth.after?, hswallows, hopening, hend]
  | cons c s ih =>
      rw [has_cons_iff, not_or] at h
      obtain ⟨hplain, hescaped, hdoubled⟩ := ih h.2
      have hclosing : begins closingTag (c :: s) = false := Bool.eq_false_iff.mpr h.1
      rw [swallows_cons_iff, has_cons_iff, has_cons_iff]
      simp only [Depth.after?, Depth.ends, Depth.next, List.append_nil, hclosing, Bool.and_false,
        Bool.false_eq_true, if_false]
      by_cases hend : begins commentEnd (c :: s) = true
      · -- it is plain again, whatever it was
        have hstart : ¬begins commentStart (c :: s) = true := fun hstart => by
          have hc := (head_of_commentStart hstart).1
          rw [head_of_commentEnd hend] at hc
          cases hc
        simp [hend, hstart, hplain]
      · by_cases hstart : begins commentStart (c :: s) = true
        · have hopening : ¬begins openingTag (c :: s) = true := fun hopening =>
            (head_of_openingTag hopening).2 (head_of_commentStart hstart).2
          simp only [hend, hstart, hopening, hescaped, hdoubled, if_true, Bool.false_eq_true, if_false,
            false_or, true_and]
          grind
        · by_cases hopening : begins openingTag (c :: s) = true
          · simp [hend, hstart, hopening, hplain, hdoubled]
          · simp [hend, hstart, hopening, hplain, hescaped, hdoubled]

end AppMend.Preview
