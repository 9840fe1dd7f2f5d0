import AppMend.Proofs.Agent.Fences
import AppMend.Proofs.Json.Marks
import AppMend.Proofs.Json.Quotes
import AppMend.Proofs.Json.Spelling
import AppMend.Proofs.Path

/-!
# Completions that encode files

New files and a note can be written as a document in many ways (`Encodes`, `Json.Written`). A text that is such
a document is taken as it stands, for no fence opens in a document (`no_opening_of_read`).

In a fence the document ends where the mark stands for the first time. If the mark stands in the document, which
it can only within one of its texts, a part of the document is left that ends within quotation marks, and this
is no document (`not_read_of_mark`).
-/

namespace AppMend.Completion

open Text
open Json (Value Written WrittenIn Blank Place Mark)
open Json.Place (outside inside escaped)

variable {c : Completion} {v w : Value} {a b g r s t u : List Char} {x : Char} {f : File} {p q : Place}
  {fs : List (String × Value)} {n : Nat} {note : Option String}

/-! ## Files and notes as documents -/

/-- A completion that names files by canonical paths. -/
structure WellFormed (c : Completion) : Prop where
  files_ne : c.files ≠ []
  path_ne : ∀ f ∈ c.files, f.path ≠ ""
  canonical : ∀ f ∈ c.files, Path.Canonical f.path
  /-- A file has the language that its path tells. -/
  language_eq : ∀ f ∈ c.files, f.language = .ofPath f.path

/-- The entry of a path and a content. -/
def entry (e : String × String) : Value := .object [("path", e.1), ("content", e.2)]

/-- The entries of files. -/
def entries (fs : List File) : Value := .arr (fs.map fun f => entry (f.path, f.content))

/-- What is said of a note. -/
inductive NoteField : Option String → List (String × Value) → Prop where
  | absent : NoteField none []
  | null : NoteField none [("note", .null)]
  | text (s : String) : NoteField (some s) [("note", .str s)]

/-- The documents that encode a completion. -/
inductive Encodes (c : Completion) : Value → Prop where
  | mk {note : List (String × Value)} : NoteField c.note note →
      Encodes c (.object (("files", entries c.files) :: note))

/-- The texts of a completion. -/
def texts (c : Completion) : List String := c.note.toList ++ c.files.flatMap fun f => [f.path, f.content]

/-- Contents by path make a completion whose paths are canonical. -/
theorem wellFormed_of_contents {m : List (String × String)} (hm : m ≠ [])
    (hpath : ∀ e ∈ m, Path.normalize e.1 ≠ "") (note : Option String) :
    WellFormed ⟨m.map fun e => .of e.1 e.2, note⟩ := by
  refine ⟨by simpa using hm, fun f hf => ?_, fun f hf => ?_, fun f hf => ?_⟩
  all_goals obtain ⟨e, he, rfl⟩ := List.mem_map.mp hf
  · exact hpath e he
  · exact Path.canonical_normalize e.1
  · rw [File.of]

/-- An entry gives its file, unless its path is empty. -/
theorem fileOfEntry_entry (e : String × String) :
    fileOfEntry (entry e) = if e.1 = "" then .error (.badEntry (entry e)) else .ok (.of e.1 e.2) := by
  simp [fileOfEntry, entry, Value.field?_object, Value.str?]

theorem NoteField.field?_files (h : NoteField note fs) (w : Value) :
    (Value.object (("files", w) :: fs)).field? "files" = some w := by
  cases h <;> simp [Value.field?_object]

theorem NoteField.field?_note (h : NoteField note fs) (w : Value) :
    ((Value.object (("files", w) :: fs)).field? "note").bind Value.str? = note := by
  cases h <;> simp [Value.field?_object, Value.str?]

theorem NoteField.textual (h : NoteField note fs) : ∀ e ∈ fs, Json.Textual (n + 1) e.2 := by
  cases h <;> simp [Json.Textual]

theorem textual_entry (e : String × String) (n : Nat) : Json.Textual (n + 1) (entry e) :=
  Json.textual_object (by simp [Json.Textual])

/-- A document of files and a note can be printed. -/
theorem NoteField.written (h : NoteField note fs) (hw : Json.Textual 126 w) :
    Written (.object (("files", w) :: fs)) (Value.object (("files", w) :: fs)).text.toList :=
  Json.written_text (Json.textual_object (n := 126) (List.forall_mem_cons.mpr ⟨hw, h.textual (n := 125)⟩))

theorem written_of_encodes (hv : Encodes c v) : Written v v.text.toList := by
  obtain ⟨hnote⟩ := hv
  exact hnote.written (List.forall_mem_map.mpr fun f _ => textual_entry (f.path, f.content) 124)

/-- **A document that encodes a completion holds it.** -/
theorem ofDocument_of_encodes (hc : c.WellFormed) (hv : Encodes c v) : ofDocument v = .ok c := by
  obtain ⟨hnote⟩ := hv
  have hfiles : filesOf (entries c.files) = .ok c.files := by
    refine mapM_eq_ok_iff.mpr (List.forall₂_map_left_iff.mpr (List.forall₂_same.mpr fun f hf => ?_))
    rw [fileOfEntry_entry, if_neg (hc.path_ne f hf), File.of, (hc.canonical f hf).normalize_eq,
      ← hc.language_eq f hf]
  refine bind_eq_ok_iff.mpr ⟨c.files, ?_, ?_⟩
  · show filesOf (((Value.object _).field? "files").getD .null) = _
    rw [hnote.field?_files]
    exact hfiles
  · dsimp only
    rw [if_neg (by simpa using hc.files_ne), hnote.field?_note]
    rfl

/-! ## Blanks around a document -/

theorem isBlank_of_blank (h : Blank a) : ∀ x ∈ a, isBlank x = true := by
  intro x hx
  rcases h x hx with rfl | rfl | rfl | rfl <;> rfl

/-- A text begins and ends with a character that is no blank. -/
def Bounded (u : List Char) : Prop :=
  ∃ x s t y, u = x :: s ∧ u = t ++ [y] ∧ isBlank x = false ∧ isBlank y = false

theorem bounded_append {y : Char} (hx : isBlank x = false) (hy : isBlank y = false) :
    Bounded (x :: (s ++ [y])) := ⟨x, s ++ [y], x :: s, y, rfl, rfl, hx, hy⟩

theorem bounded_of_scalar (h : Json.Scalar v u) : Bounded u := by
  cases h with
  | null => exact bounded_append (s := ['u', 'l']) rfl rfl
  | yes => exact bounded_append (s := ['r', 'u']) rfl rfl
  | no => exact bounded_append (s := ['a', 'l', 's']) rfl rfl
  | text h =>
      obtain ⟨_⟩ := h
      exact bounded_append rfl rfl

theorem bounded_of_writtenIn (h : WrittenIn n v u) : Bounded u := by
  cases n with
  | zero => exact bounded_of_scalar h
  | succ n =>
      rcases h with h | h
      · exact bounded_of_scalar h
      · cases h <;> exact bounded_append rfl rfl

/-- Blanks around a document are trimmed. -/
theorem trim_written (ha : ∀ x ∈ a, isBlank x = true) (hb : ∀ x ∈ b, isBlank x = true)
    (h : WrittenIn n v u) : trim (a ++ (u ++ b)) = u := by
  obtain ⟨x, s, t, y, hfirst, hlast, hx, hy⟩ := bounded_of_writtenIn h
  exact trim_append ha hb hfirst hx hlast hy

/-! ## Fences and documents -/

theorem isPlain_of_isAlpha (h : x.isAlpha = true) : Json.isPlain x = true := by
  have hquote : x ≠ '"' := by
    rintro rfl
    cases h
  have hslash : x ≠ '\\' := by
    rintro rfl
    cases h
  have hlarge : 32 ≤ x.toNat := by
    have := isAlpha_iff.mp h
    omega
  exact Json.isPlain_iff.mpr ⟨hlarge, hquote, hslash⟩

/-- The mark stands within quotation marks. -/
theorem after?_fenceMark (h : p.after? fenceMark = some q) : p ≠ outside ∧ q = inside := by
  rw [fenceMark_eq] at h
  cases p <;> cases h <;> exact ⟨by decide, rfl⟩

/-- Within quotation marks a line does not end. -/
theorem after?_line (hb : ∀ x ∈ b, isBlank x = true) : inside.after? (b ++ ['\n']) = none := by
  induction b with
  | nil => rfl
  | cons x b ih =>
      obtain ⟨hx, hb⟩ := List.forall_mem_cons.mp hb
      by_cases hsmall : x.toNat < 32
      · show (inside.next? x).bind _ = none
        rw [Place.next?, if_pos hsmall]
        rfl
      · have hquote : x ≠ '"' := by
          rintro rfl
          cases hx
        have hslash : x ≠ '\\' := by
          rintro rfl
          cases hx
        show (inside.next? x).bind _ = none
        rw [Json.next?_of_isPlain (Json.isPlain_iff.mpr ⟨Nat.le_of_not_lt hsmall, hquote, hslash⟩)]
        exact ih hb

/-- **No fence opens in a document**, for the mark stands within quotation marks and a line does not end there. -/
theorem no_opening_of_read (h : Json.read s = .ok v) {o : List Char} (ho : Opening o) : ¬o <:+: s := by
  obtain @⟨w, b, hw, hb⟩ := ho
  rintro ⟨l, r, rfl⟩
  have hafter : outside.after? (l ++ (fenceMark ++ (w ++ ((b ++ ['\n']) ++ r)))) = some outside := by
    simpa using Json.after?_of_read h
  rw [Place.after?_append] at hafter
  obtain ⟨p, -, hafter⟩ := Option.bind_eq_some_iff.mp hafter
  rw [Place.after?_append] at hafter
  obtain ⟨q, hmark, hafter⟩ := Option.bind_eq_some_iff.mp hafter
  obtain ⟨-, rfl⟩ := after?_fenceMark hmark
  have hword : inside.after? w = some inside :=
    Place.after?_of_forall fun x hx => Json.next?_of_isPlain (isPlain_of_isAlpha (hw x hx))
  rw [Place.after?_append, hword, Option.bind_some, Place.after?_append, after?_line hb] at hafter
  cases hafter

theorem after?_of_blank (hb : ∀ x ∈ b, isBlank x = true) : outside.after? b = some outside := by
  refine Place.after?_of_forall fun x hx => Json.next?_of_isBare ?_
  have hquote : x ≠ '"' := by
    rintro rfl
    cases hb _ hx
  have htick : x ≠ '\x60' := by
    rintro rfl
    cases hb _ hx
  simp [Json.isBare, hquote, htick]

/-- A text ends outside if it does without the blanks around. -/
theorem after?_of_trim (h : outside.after? (trim s) = some outside) : outside.after? s = some outside := by
  obtain ⟨b, hb, hend⟩ := exists_trimEnd_append (trimStart s)
  have hsplit : s = s.takeWhile isBlank ++ (trim s ++ b) := by
    rw [trim, ← hend]
    exact List.takeWhile_append_dropWhile.symm
  have hstart : outside.after? (s.takeWhile isBlank) = some outside :=
    after?_of_blank fun x hx => List.mem_takeWhile_imp hx
  rw [hsplit, Place.after?_append, hstart, Option.bind_some, Place.after?_append, h, Option.bind_some,
    after?_of_blank hb]

/-- **What stands before a mark in a document is no document.** -/
theorem not_read_of_mark {w : Value} (h : Json.read (a ++ (g ++ (fenceMark ++ r))) = .ok v)
    (ha : ∀ x ∈ a, isBlank x = true) : Json.read (trim g) ≠ .ok w := by
  intro hg
  have hafter := Json.after?_of_read h
  rw [Place.after?_append, after?_of_blank ha, Option.bind_some, Place.after?_append,
    after?_of_trim (Json.after?_of_read hg), Option.bind_some, Place.after?_append] at hafter
  obtain ⟨q, hmark, -⟩ := Option.bind_eq_some_iff.mp hafter
  exact (after?_fenceMark hmark).1 rfl

/-! ## Texts that hold a document -/

/-- A text with a document in a fence. -/
def fenced (before document after : String) : String :=
  let mark := String.ofList fenceMark
  before ++ mark ++ "json\n" ++ document ++ "\n" ++ mark ++ after

/-- All of a document is in it, for no fence is. -/
theorem body_document (hs : Json.read s = .ok v) : body s = trim s :=
  body_of_no_opening fun _ ho => no_opening_of_read hs ho

section Document

variable {J before : String}

/-- **A document is taken as it stands.** -/
theorem parse_of_written (hJ : Written v J.toList) : parse J = ofDocument v := by
  have hbody : body J.toList = trim J.toList := body_document (Json.read_of_written hJ)
  have htrim : Json.read (trim J.toList) = .ok v := by
    generalize J.toList = s at hJ
    obtain ⟨ha, hu, hb⟩ := hJ
    rw [trim_written (isBlank_of_blank ha) (isBlank_of_blank hb) hu]
    exact Json.read_of_written (.bare hu)
  rw [parse, hbody, htrim]

theorem toList_fenced (before J after : String) : (fenced before J after).toList = before.toList ++
    (fenceMark ++ ("json".toList ++ '\n' :: (J.toList ++ '\n' :: (fenceMark ++ after.toList)))) := by
  simp [fenced]

theorem mark_fenceMark : Mark fenceMark := ⟨by decide, fun _ hx => (List.mem_replicate.mp hx).2⟩

/-- **A document in a fence is taken as it stands if it has no mark, and is not read if it has one.** -/
theorem parse_fenced_of_written (hJ : Written v J.toList) (hbefore : tick ∉ before.toList)
    (after : String) :
    (¬fenceMark <:+: J.toList → parse (fenced before J after) = ofDocument v) ∧
      (fenceMark <:+: J.toList → ∃ e, parse (fenced before J after) = .error (.unreadable e)) := by
  have hread := Json.read_of_written hJ
  unfold parse
  rw [toList_fenced]
  generalize J.toList = s at hJ hread
  obtain @⟨a, u, b, ha, hu, hb⟩ := hJ
  have hblank := isBlank_of_blank ha
  obtain ⟨x, w, -, -, hw, -, hx, -⟩ := bounded_of_writtenIn hu
  have hbody {g r : List Char} (hcut : cut? fenceMark ((u ++ b) ++ '\n' :: (fenceMark ++ after.toList)) =
      some (g, r)) : body (before.toList ++ (fenceMark ++ ("json".toList ++
        '\n' :: ((a ++ (u ++ b)) ++ '\n' :: (fenceMark ++ after.toList))))) = trim g := by
    rw [hw] at hcut ⊢
    have hword : ∀ x ∈ "json".toList, x.isAlpha = true := List.all_eq_true.mp (by decide)
    have hfirst := body_fenced hbefore hword hblank hx hcut
    simpa using hfirst
  constructor
  · intro hno
    have hno : ¬fenceMark <:+: u ++ b := fun h => hno (h.trans (List.suffix_append a (u ++ b)).isInfix)
    have hline : ∀ x ∈ b ++ ['\n'], isBlank x = true := by
      intro x hx
      rcases List.mem_append.mp hx with hx | hx
      · exact isBlank_of_blank hb x hx
      · exact List.mem_singleton.mp hx ▸ rfl
    have htrim : trim ((u ++ b) ++ ['\n']) = u := by
      rw [List.append_assoc]
      exact trim_written (a := []) (by simp) hline hu
    rw [hbody (cut?_of_no_mark hno after.toList), htrim, Json.read_of_written (.bare hu)]
  · intro hmark
    -- the fence is cut at a mark of the document, and what is before this is no document
    have hmark : fenceMark <:+: u ++ b := mark_fenceMark.infix_of_append_left ha.no_tick hmark
    obtain ⟨g, q, r, hcut, hsplit⟩ := cut?_of_mark hmark ('\n' :: (fenceMark ++ after.toList))
    rw [hbody hcut]
    rw [hsplit] at hread
    cases hg : Json.read (trim g) with
    | ok w => exact absurd hg (not_read_of_mark hread hblank)
    | error e => exact ⟨e, rfl⟩

end Document

/-! ## Encoded completions are read back -/

theorem hasText_object {t : String} (h : Json.HasText t (.object fs)) :
    (∃ f ∈ fs, t = f.1) ∨ ∃ f ∈ fs, Json.HasText t f.2 := by
  rw [Value.object_eq] at h
  cases h with
  | name h => exact .inl ⟨_, Table.mem_of_mem_ofList h, rfl⟩
  | field h ht => exact .inr ⟨_, Table.mem_of_mem_ofList h, ht⟩

theorem hasText_entry {t : String} {e : String × String} (h : Json.HasText t (entry e)) :
    t ∈ ["path", "content"] ∨ t ∈ [e.1, e.2] := by
  rcases hasText_object h with ⟨g, hg, rfl⟩ | ⟨g, hg, ht⟩
  · left
    simp only [List.mem_cons, List.not_mem_nil, or_false] at hg ⊢
    rcases hg with rfl | rfl <;> simp
  · right
    simp only [List.mem_cons, List.not_mem_nil, or_false] at hg ⊢
    rcases hg with rfl | rfl <;> cases ht <;> simp

theorem NoteField.of_mem {e : String × Value} (h : NoteField note fs) (he : e ∈ fs) :
    e.1 = "note" ∧ ∀ t, Json.HasText t e.2 → t ∈ note.toList := by
  cases h with
  | absent => cases he
  | null =>
      obtain rfl := List.mem_singleton.mp he
      exact ⟨rfl, fun _ ht => nomatch ht⟩
  | text s =>
      obtain rfl := List.mem_singleton.mp he
      refine ⟨rfl, fun t ht => ?_⟩
      cases ht
      simp

/-- A document that encodes a completion has its texts, and names of fields. -/
theorem hasText_of_encodes {t : String} (hv : Encodes c v) (h : Json.HasText t v) :
    t ∈ ["files", "path", "content", "note"] ∨ t ∈ c.texts := by
  obtain ⟨hnote⟩ := hv
  rcases hasText_object h with ⟨e, he, rfl⟩ | ⟨e, he, ht⟩
  · left
    rcases List.mem_cons.mp he with rfl | he
    · simp
    · simp [(hnote.of_mem he).1]
  · rcases List.mem_cons.mp he with rfl | he
    · cases ht with
      | item hentry ht =>
          obtain ⟨f, hf, rfl⟩ := List.mem_map.mp hentry
          rcases hasText_entry ht with ht | ht
          · left
            simp only [List.mem_cons, List.not_mem_nil, or_false] at ht ⊢
            rcases ht with rfl | rfl <;> simp
          · exact .inr (List.mem_append_right _ (List.mem_flatMap.mpr ⟨f, hf, ht⟩))
    · exact .inr (List.mem_append_left _ ((hnote.of_mem he).2 t ht))

/-- **Every completion is read back off each document that encodes it.** In a fence, behind a text without
grave accents, it is read back exactly if the mark does not stand in the document, and else nothing is read. The
mark can only stand in the document if it stands in one of the texts of the completion. -/
theorem parse_encoded {J : String} (hc : c.WellFormed) (hv : Encodes c v) (hJ : Written v J.toList) :
    parse J = .ok c ∧
      (fenceMark <:+: J.toList → ∃ t ∈ c.texts, fenceMark <:+: t.toList) ∧
      ∀ before after : String, tick ∉ before.toList →
        (parse (fenced before J after) = .ok c ↔ ¬fenceMark <:+: J.toList) ∧
          (fenceMark <:+: J.toList → ∃ e, parse (fenced before J after) = .error (.unreadable e)) := by
  have hdecode := ofDocument_of_encodes hc hv
  refine ⟨?_, fun hmark => ?_, fun before after hbefore => ?_⟩
  · rw [parse_of_written hJ, hdecode]
  · obtain ⟨t, ht, hmark⟩ := Json.exists_hasText_of_written mark_fenceMark hJ hmark
    refine ⟨t, (hasText_of_encodes hv ht).resolve_left fun hname => ?_, hmark⟩
    have htick := mem_of_fenceMark_infix hmark
    simp only [List.mem_cons, List.not_mem_nil, or_false] at hname
    rcases hname with rfl | rfl | rfl | rfl <;> revert htick <;> decide
  · obtain ⟨hread, hfault⟩ := parse_fenced_of_written hJ hbefore after
    refine ⟨⟨fun h hmark => ?_, fun hno => (hread hno).trans hdecode⟩, hfault⟩
    obtain ⟨e, he⟩ := hfault hmark
    rw [he] at h
    cases h

/-- A page and a style sheet, with a note that has quotation marks. -/
def reply : Completion where
  files := [("src/App.tsx", "export default () => null;\n"), ("src/index.css", "")].map fun e => .of e.1 e.2
  note := some "guarded \"map\""

theorem parse_encoded_reply :
    let v := Value.object [("files", entries reply.files), ("note", "guarded \"map\"")]
    reply.WellFormed ∧ Encodes reply v ∧ Written v v.text.toList ∧ parse v.text = .ok reply ∧
      parse (fenced "Here you go:\n" v.text "\nDone.") = .ok reply := by
  intro v
  have hc : reply.WellFormed := wellFormed_of_contents (by decide) (by decide +kernel) _
  have hv : Encodes reply v := .mk (.text "guarded \"map\"")
  have hJ : Written v v.text.toList := written_of_encodes hv
  have hmark : ¬fenceMark <:+: v.text.toList := by decide +kernel
  obtain ⟨halone, -, hfenced⟩ := parse_encoded hc hv hJ
  exact ⟨hc, hv, hJ, halone, (hfenced _ _ (by decide +kernel)).1.mpr hmark⟩

/-- A page of documentation with a fence of its own. -/
def manual : Completion where
  files := [("README.md", String.ofList fenceMark ++ "sh\nnpm i\n" ++ String.ofList fenceMark)].map fun e =>
    .of e.1 e.2

/-- A file with a fence is not read back off a fenced document, though it is off the document alone. -/
theorem not_parse_fenced_manual :
    ∃ v, manual.WellFormed ∧ Encodes manual v ∧ Written v v.text.toList ∧ parse v.text = .ok manual ∧
      parse (fenced "Here:\n" v.text "\n") ≠ .ok manual := by
  have hc : manual.WellFormed := wellFormed_of_contents (by decide) (by decide +kernel) _
  have hv : Encodes manual (.object [("files", entries manual.files)]) := .mk .absent
  have hJ := written_of_encodes hv
  refine ⟨_, hc, hv, hJ, ?_, fun h => ?_⟩
  · rw [parse_of_written hJ, ofDocument_of_encodes hc hv]
  · have hbefore : tick ∉ "Here:\n".toList := by decide +kernel
    obtain ⟨e, he⟩ := (parse_fenced_of_written hJ hbefore "\n").2 (by decide +kernel)
    rw [he] at h
    cases h

end AppMend.Completion
