import AppMend.Proofs.Agent.Completions

/-!
# Completions that are accepted

A document names files in a list of entries or as contents by path (`Names`). The files of a completion that is
accepted are those that its document names, and there is one at least (`parse_eq_ok_iff`).

Before a path is brought to its canonical form it is looked at in an entry, which may not have the empty path;
among contents by path it may. So what is accepted in one form is not always accepted in the other, and the
path of a file can be empty, in both forms if it leads to the root again.
-/

namespace AppMend.Completion

open Json (Value Written)

variable {c : Completion} {v w : Value} {s : String} {es : List (String × String)} {e : String × String}
  {files : List File} {f : File}

/-! ## What a document names -/

/-- The file of a path and a content. -/
def fileOf (e : String × String) : File := .of e.1 e.2

/-- An item is the entry of a path, which is not empty, and of a content. -/
structure IsEntry (item : Value) (e : String × String) : Prop where
  path_eq : item.field? "path" = some (.str e.1)
  content_eq : item.field? "content" = some (.str e.2)
  path_ne : e.1 ≠ ""

/-- The paths and contents that a value names. -/
inductive Names : Value → List (String × String) → Prop where
  | list {items : List Value} {es : List (String × String)} : List.Forall₂ IsEntry items es →
      Names (.arr items) es
  | map (es : List (String × String)) : Names (.obj (es.map fun e => (e.1, .str e.2))) es

/-- The paths and contents that a document names, which may be a bare list. -/
inductive Holds : Value → List (String × String) → Prop where
  | bare {items : List Value} {es : List (String × String)} : Names (.arr items) es → Holds (.arr items) es
  | field {v w : Value} {es : List (String × String)} : v.field? "files" = some w → Names w es → Holds v es

theorem bind_str?_eq_some_iff {v : Option Value} {s : String} :
    v.bind Value.str? = some s ↔ v = some (.str s) := by
  rcases v with _ | v
  · simp
  · cases v <;> simp [Value.str?]

theorem fileOfEntry_eq_ok_iff : fileOfEntry v = .ok f ↔ ∃ e, IsEntry v e ∧ f = fileOf e := by
  unfold fileOfEntry
  constructor
  · intro h
    split at h
    · rename_i path content hpath hcontent
      split at h
      · cases h
      · rename_i hne
        cases h
        exact ⟨(path, content), ⟨bind_str?_eq_some_iff.mp hpath, bind_str?_eq_some_iff.mp hcontent,
          by simpa using hne⟩, rfl⟩
    · cases h
  · rintro ⟨e, ⟨hpath, hcontent, hne⟩, rfl⟩
    rw [hpath, hcontent]
    exact if_neg (by simpa using hne)

theorem fileOfContent_eq_ok_iff {field : String × Value} :
    fileOfContent field.1 field.2 = .ok f ↔ ∃ e : String × String, field = (e.1, .str e.2) ∧ f = fileOf e := by
  obtain ⟨path, v⟩ := field
  unfold fileOfContent
  constructor
  · intro h
    split at h
    · rename_i content hv
      cases h
      exact ⟨(path, content), congrArg (path, ·) hv, rfl⟩
    · cases h
  · rintro ⟨e, he, rfl⟩
    cases he
    rfl

/-- The files of a value are those that it names. -/
theorem filesOf_eq_ok_iff : filesOf v = .ok files ↔ ∃ es, Names v es ∧ files = es.map fileOf := by
  cases v with
  | arr items =>
      show items.mapM fileOfEntry = .ok files ↔ _
      rw [mapM_eq_ok_iff_exists fun _ _ => fileOfEntry_eq_ok_iff]
      refine exists_congr fun es => and_congr_left' ⟨.list, fun h => ?_⟩
      cases h
      assumption
  | obj fields =>
      show (fields.mapM fun c => fileOfContent c.1 c.2) = .ok files ↔ _
      rw [mapM_eq_ok_iff_exists fun _ _ => fileOfContent_eq_ok_iff]
      refine exists_congr fun es => and_congr_left' ?_
      have hmap : List.Forall₂ (fun (field : String × Value) e => field = (e.1, .str e.2)) fields es ↔
          fields = es.map fun e => (e.1, .str e.2) := by
        rw [← List.forall₂_eq_eq_eq, List.forall₂_map_right_iff]
      rw [hmap]
      constructor
      · rintro rfl
        exact .map es
      · intro h
        cases h
        rfl
  | null | bool | num | str =>
      constructor
      · intro h
        cases h
      · rintro ⟨es, h, -⟩
        cases h

theorem holds_arr_iff {items : List Value} : Holds (.arr items) es ↔ Names (.arr items) es := by
  refine ⟨fun h => ?_, .bare⟩
  cases h with
  | bare h => exact h
  | field hfield => cases hfield

theorem holds_iff (hv : ∀ items, v ≠ .arr items) :
    Holds v es ↔ Names ((v.field? "files").getD .null) es := by
  constructor
  · intro h
    cases h with
    | bare => exact absurd rfl (hv _)
    | field hfield h =>
        rw [hfield]
        exact h
  · intro h
    cases hfield : v.field? "files" with
    | none =>
        rw [hfield] at h
        cases h
    | some w =>
        rw [hfield] at h
        exact .field hfield h

/-- **A completion is accepted if its document names files, and these are its files then.** -/
theorem ofDocument_eq_ok_iff : ofDocument v = .ok c ↔
    ∃ es, Holds v es ∧ es ≠ [] ∧ c = ⟨es.map fileOf, (v.field? "note").bind Value.str?⟩ := by
  have hnamed : ofDocument v = .ok c ↔ ∃ files, (∃ es, Holds v es ∧ files = es.map fileOf) ∧
      (if files.isEmpty then .error .noFiles else
        pure ⟨files, (v.field? "note").bind Value.str?⟩ : Except CompletionFault Completion) = .ok c := by
    unfold ofDocument
    dsimp only
    split
    · simp only [bind_eq_ok_iff, filesOf_eq_ok_iff, holds_arr_iff]
    · rename_i hv
      simp only [bind_eq_ok_iff, filesOf_eq_ok_iff, holds_iff hv]
  rw [hnamed]
  constructor
  · rintro ⟨_, ⟨es, hes, rfl⟩, h⟩
    split at h
    · cases h
    · rename_i hne
      cases h
      exact ⟨es, hes, by simpa using hne, rfl⟩
  · rintro ⟨es, hes, hne, rfl⟩
    exact ⟨_, ⟨es, hes, rfl⟩, if_neg (by simpa using hne)⟩

/-- What a text names, and its note. -/
def HeldBy (s : String) (es : List (String × String)) (note : Option String) : Prop :=
  ∃ v, Json.read (body s.toList) = .ok v ∧ Holds v es ∧ note = (v.field? "note").bind Value.str?

theorem parse_eq_ok_iff : parse s = .ok c ↔
    ∃ es note, HeldBy s es note ∧ es ≠ [] ∧ c = ⟨es.map fileOf, note⟩ := by
  unfold parse HeldBy
  constructor
  · intro h
    split at h
    · cases h
    · rename_i v hread
      obtain ⟨es, hes, hne, rfl⟩ := ofDocument_eq_ok_iff.mp h
      exact ⟨es, _, ⟨v, hread, hes, rfl⟩, hne, rfl⟩
  · rintro ⟨es, note, ⟨v, hread, hes, rfl⟩, hne, rfl⟩
    rw [hread]
    exact ofDocument_eq_ok_iff.mpr ⟨es, hes, hne, rfl⟩

/-! ## Both forms -/

variable {note : Option String}

/-- The documents of contents by path. -/
inductive MapForm (es : List (String × String)) (note : Option String) : Value → Prop where
  | mk {fields : List (String × Value)} : NoteField note fields →
      MapForm es note (.object (("files", .object (es.map fun e => (e.1, .str e.2))) :: fields))

/-- The documents of a list of entries. A bare list has no note. -/
inductive ListForm (es : List (String × String)) : Option String → Value → Prop where
  | bare : ListForm es none (.arr (es.map entry))
  | mk {note : Option String} {fields : List (String × Value)} : NoteField note fields →
      ListForm es note (.object (("files", .arr (es.map entry)) :: fields))

theorem MapForm.written (h : MapForm es note v) : Written v v.text.toList := by
  obtain ⟨hnote⟩ := h
  exact hnote.written (Json.textual_object (n := 125) (List.forall_mem_map.mpr fun _ _ => by simp [Json.Textual]))

theorem ListForm.written (h : ListForm es note v) : Written v v.text.toList := by
  have hentries (n : Nat) : Json.Textual (n + 2) (.arr (es.map entry)) :=
    List.forall_mem_map.mpr fun e _ => textual_entry e n
  cases h with
  | bare => exact Json.written_text (hentries 125)
  | mk hnote => exact hnote.written (hentries 124)

theorem names_object_iff {es' : List (String × String)} :
    Names (.object (es.map fun e => (e.1, .str e.2))) es' ↔ es' = Table.ofList es := by
  rw [Value.object_eq, Table.ofList_map]
  constructor
  · intro h
    generalize Table.ofList es = t at h
    generalize hv : Value.obj (t.map fun e => (e.1, .str e.2)) = v at h
    cases h with
    | list => cases hv
    | map es' =>
        have hinj : Function.Injective fun e : String × String => (e.1, Value.str e.2) := by
          rintro ⟨a, b⟩ ⟨a', b'⟩ h
          simpa using h
        exact (hinj.list_map (Value.obj.inj hv)).symm
  · rintro rfl
    exact .map _

theorem isEntry_entry_iff {e' : String × String} : IsEntry (entry e) e' ↔ e' = e ∧ e.1 ≠ "" := by
  have hpath : (entry e).field? "path" = some (.str e.1) := by simp [entry, Value.field?_object]
  have hcontent : (entry e).field? "content" = some (.str e.2) := by simp [entry, Value.field?_object]
  constructor
  · rintro ⟨hpath', hcontent', hne⟩
    rw [hpath] at hpath'
    rw [hcontent] at hcontent'
    obtain ⟨path, content⟩ := e'
    cases hpath'
    cases hcontent'
    exact ⟨rfl, hne⟩
  · rintro ⟨rfl, hne⟩
    exact ⟨hpath, hcontent, hne⟩

theorem names_entries_iff {es' : List (String × String)} :
    Names (.arr (es.map entry)) es' ↔ es' = es ∧ "" ∉ es.map (·.1) := by
  have hnames : Names (.arr (es.map entry)) es' ↔
      List.Forall₂ (fun e e' => e' = e ∧ e.1 ≠ "") es es' := by
    simp only [← isEntry_entry_iff]
    rw [← List.forall₂_map_left_iff]
    refine ⟨fun h => ?_, .list⟩
    cases h
    assumption
  rw [hnames]
  clear hnames
  constructor
  · intro h
    induction h with
    | nil => simp
    | cons hhead _ ih =>
        obtain ⟨rfl, hne⟩ := hhead
        obtain ⟨rfl, hmem⟩ := ih
        exact ⟨rfl, by simpa [Ne.symm hne] using hmem⟩
  · rintro ⟨rfl, hmem⟩
    refine List.forall₂_same.mpr fun e he => ⟨rfl, fun hempty => hmem ?_⟩
    exact List.mem_map.mpr ⟨e, he, hempty⟩

/-- What a document names in its field is what it names. -/
theorem ofDocument_object {fields : List (String × Value)} (hnote : NoteField note fields) :
    ofDocument (.object (("files", w) :: fields)) = .ok c ↔
      ∃ es, Names w es ∧ es ≠ [] ∧ c = ⟨es.map fileOf, note⟩ := by
  have hobject (items : List Value) : Value.object (("files", w) :: fields) ≠ .arr items := by
    rw [Value.object_eq]
    exact fun h => nomatch h
  simp only [ofDocument_eq_ok_iff, holds_iff hobject, hnote.field?_files, hnote.field?_note, Option.getD_some]

/-- **Contents by path are accepted if there are any.** -/
theorem ofDocument_mapForm (hv : MapForm es note v) : ofDocument v = .ok c ↔
    es ≠ [] ∧ c = ⟨(Table.ofList es).map fileOf, note⟩ := by
  obtain ⟨hnote⟩ := hv
  simp only [ofDocument_object hnote, names_object_iff, exists_eq_left, ne_eq, Table.ofList_eq_nil_iff]

/-- **A list of entries is accepted if there are any and none has the empty path.** -/
theorem ofDocument_listForm (hv : ListForm es note v) : ofDocument v = .ok c ↔
    es ≠ [] ∧ "" ∉ es.map (·.1) ∧ c = ⟨es.map fileOf, note⟩ := by
  have hnamed : ofDocument v = .ok c ↔
      ∃ es', Names (.arr (es.map entry)) es' ∧ es' ≠ [] ∧ c = ⟨es'.map fileOf, note⟩ := by
    cases hv with
    | bare =>
        simp only [ofDocument_eq_ok_iff, holds_arr_iff]
        rfl
    | mk hnote => exact ofDocument_object hnote
  rw [hnamed]
  simp only [names_entries_iff]
  constructor
  · rintro ⟨_, ⟨rfl, hpath⟩, hne, hc⟩
    exact ⟨hne, hpath, hc⟩
  · rintro ⟨hne, hpath, hc⟩
    exact ⟨es, ⟨rfl, hpath⟩, hne, hc⟩

/-! ## What is accepted -/

/-- **A completion that is accepted has files, those that its text names. None of them has the empty path
exactly if no path in the text leads to the root again.** The contents by path in a text are accepted if there
are any; a list of the same entries is accepted if moreover none has the empty path, so both are accepted or
none exactly if there is no empty path among them. If both are accepted they have the same files. -/
theorem parse_accepted (s : String) (es : List (String × String)) :
    (∀ c, parse s = .ok c → c.files ≠ [] ∧ ∃ held, HeldBy s held c.note ∧ c.files = held.map fileOf ∧
      ((∀ f ∈ c.files, f.path ≠ "") ↔ ∀ e ∈ held, Path.level e.1 ≠ 0)) ∧
      ∀ note note' v w J K, (es.map (·.1)).Nodup → MapForm es note v → ListForm es note' w →
        Written v J.toList → Written w K.toList →
          ((∃ c, parse J = .ok c) ↔ es ≠ []) ∧ ((∃ d, parse K = .ok d) ↔ es ≠ [] ∧ "" ∉ es.map (·.1)) ∧
            (((∃ c, parse J = .ok c) ↔ ∃ d, parse K = .ok d) ↔ "" ∉ es.map (·.1)) ∧
            ∀ c d, parse J = .ok c → parse K = .ok d → c.files.Perm d.files := by
  constructor
  · intro c h
    obtain ⟨held, note, hheld, hne, rfl⟩ := parse_eq_ok_iff.mp h
    refine ⟨by simpa using hne, held, hheld, rfl, ?_⟩
    rw [List.forall_mem_map]
    exact forall₂_congr fun e _ => not_congr Path.normalize_eq_empty_iff
  · intro note note' v w J K hnames hv hw hJ hK
    have hmap {c : Completion} := ofDocument_mapForm (c := c) hv
    have hlist {d : Completion} := ofDocument_listForm (c := d) hw
    rw [parse_of_written hJ, parse_of_written hK]
    have haccept : (∃ c, ofDocument v = .ok c) ↔ es ≠ [] := by
      simp only [hmap, exists_and_left, exists_eq, and_true]
    have haccept' : (∃ d, ofDocument w = .ok d) ↔ es ≠ [] ∧ "" ∉ es.map (·.1) := by
      simp only [hlist, exists_and_left, exists_eq, and_true]
    refine ⟨haccept, haccept', ?_, ?_⟩
    · rw [haccept, haccept']
      constructor
      · intro h hempty
        have hne : es ≠ [] := by
          rintro rfl
          cases hempty
        exact (h.mp hne).2 hempty
      · exact fun hno => ⟨fun hne => ⟨hne, hno⟩, And.left⟩
    · intro c d hc hd
      obtain ⟨-, rfl⟩ := hmap.mp hc
      obtain ⟨-, -, rfl⟩ := hlist.mp hd
      exact (Table.perm_ofList hnames).map fileOf

/-- A page and a style sheet in both forms, of which only one has a note. -/
theorem parse_accepted_page :
    let es := [("src/App.tsx", "A"), ("./src/index.css", "B")]
    let v := Value.object [("files", .object (es.map fun e => (e.1, .str e.2))), ("note", "both")]
    let w := Value.arr (es.map entry)
    (es.map (·.1)).Nodup ∧ MapForm es (some "both") v ∧ ListForm es none w ∧
      Written v v.text.toList ∧ Written w w.text.toList ∧
        ∃ c d, parse v.text = .ok c ∧ parse w.text = .ok d ∧ c.files.Perm d.files ∧ d.files ≠ [] := by
  intro es v w
  have hnames : (es.map (·.1)).Nodup := by decide
  have hv : MapForm es (some "both") v := .mk (.text "both")
  have hw : ListForm es none w := .bare
  obtain ⟨hsome, hforms⟩ := parse_accepted w.text es
  obtain ⟨hmap, hlist, -, hperm⟩ := hforms _ _ v w _ _ hnames hv hw hv.written hw.written
  obtain ⟨c, hc⟩ := hmap.mpr (List.cons_ne_nil _ _)
  obtain ⟨d, hd⟩ := hlist.mpr ⟨List.cons_ne_nil _ _, by decide⟩
  exact ⟨hnames, hv, hw, hv.written, hw.written, c, d, hc, hd, hperm c d hc hd, (hsome d hd).1⟩

/-- With the empty path contents are accepted and a list of the same entry is not, and a list with the path of
the root is accepted. The path of the file is empty. -/
theorem parse_accepted_emptyPath :
    let es := [("", "x")]
    let v := Value.object [("files", .object (es.map fun e => (e.1, .str e.2)))]
    let w := Value.arr (es.map entry)
    MapForm es none v ∧ ListForm es none w ∧ parse v.text = .ok ⟨[⟨"", "x", .other⟩], none⟩ ∧
      (∀ d, parse w.text ≠ .ok d) ∧
      parse (Value.arr [entry ("/", "x")]).text = .ok ⟨[⟨"", "x", .other⟩], none⟩ := by
  intro es v w
  have hv : MapForm es none v := .mk .absent
  have hw : ListForm es none w := .bare
  have hroot : ListForm [("/", "x")] none (.arr [entry ("/", "x")]) := .bare
  refine ⟨hv, hw, ?_, fun d hd => ?_, ?_⟩
  · rw [parse_of_written hv.written]
    exact (ofDocument_mapForm hv).mpr ⟨List.cons_ne_nil _ _, by decide +kernel⟩
  · rw [parse_of_written hw.written] at hd
    exact ((ofDocument_listForm hw).mp hd).2.1 (by decide)
  · rw [parse_of_written hroot.written]
    exact (ofDocument_listForm hroot).mpr ⟨List.cons_ne_nil _ _, by decide, by decide +kernel⟩

end AppMend.Completion
