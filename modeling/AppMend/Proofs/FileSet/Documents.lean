import AppMend.Load.Document
import AppMend.Proofs.FileSet.Construction
import AppMend.Proofs.Json.Spelling
import AppMend.Proofs.Outcome

/-!
# The forms of a file set

A file set is written as contents by path, as these in the one field of a request, or as a list of entries.
Each form is read back to the set it was made of (`forms_load`), with one exception. Contents by path that have
only the path `files` look like a request; what is in it is then a text, and no files.
-/

namespace AppMend

open Json (Value Written)

variable {s : FileSet} {f : File} {m : List (String × String)} {v w : Value}

namespace FileSet

/-! ## The forms -/

/-- Contents by path. -/
def bareForm (s : FileSet) : Value := .object (s.contents.map fun e => (e.1, .str e.2))

/-- Contents by path as the one field of a request. -/
def requestForm (s : FileSet) : Value := .object [("files", s.bareForm)]

/-- A list of entries of a path and a content. -/
def listForm (s : FileSet) : Value :=
  .arr (s.files.map fun f => .object [("path", f.path), ("content", f.content)])

theorem ascending_contents (s : FileSet) : Table.Ascending (s.contents.map fun e => (e.1, Value.str e.2)) := by
  rw [contents, List.map_map]
  exact List.pairwise_map.mpr s.ascending

theorem bareForm_eq (s : FileSet) : s.bareForm = .obj (s.contents.map fun e => (e.1, .str e.2)) :=
  Value.object_of_ascending s.ascending_contents

theorem names_bareForm (s : FileSet) : (s.contents.map fun e => (e.1, Value.str e.2)).map (·.1) = s.paths := by
  rw [contents, paths, List.map_map, List.map_map]
  rfl

/-- Bare contents can be printed, within other values. -/
theorem textual_bareForm (s : FileSet) (n : Nat) : Json.Textual (n + 1) s.bareForm :=
  Json.textual_object (List.forall_mem_map.mpr fun _ _ => by simp [Json.Textual])

theorem written_bareForm (s : FileSet) : Written s.bareForm s.bareForm.text.toList :=
  Json.written_text (textual_bareForm s 126)

theorem written_requestForm (s : FileSet) : Written s.requestForm s.requestForm.text.toList :=
  Json.written_text (Json.textual_object (n := 126) (List.forall_mem_singleton.mpr (textual_bareForm s 125)))

theorem written_listForm (s : FileSet) : Written s.listForm s.listForm.text.toList := by
  have hentry (f : File) (n : Nat) :
      Json.Textual (n + 1) (.object [("path", .str f.path), ("content", .str f.content)]) :=
    Json.textual_object (by simp [Json.Textual])
  have hlist (n : Nat) : Json.Textual (n + 2) s.listForm := List.forall_mem_map.mpr fun f _ => hentry f n
  exact Json.written_text (hlist 125)

/-! ## Files of contents -/

/-- A file of a set of contents has the language that its path tells. -/
theorem language_of_ofContents (hf : f ∈ (ofContents m).files) : f.language = .ofPath f.path := by
  have hlatest : (latest? (m.map fun e => File.of e.1 e.2) f.path).map File.filed = some f := by
    rw [← get?_ofList]
    exact get?_path hf
  obtain ⟨g, hg, rfl⟩ := Option.map_eq_some_iff.mp hlatest
  obtain ⟨e, -, rfl⟩ := List.mem_map.mp (of_latest? hg).1
  simp [File.filed, File.of]

/-- A file of a set of contents is the file of its path and content. -/
theorem of_path_content (hf : f ∈ (ofContents m).files) : File.of f.path f.content = f := by
  rw [File.of, normalize_path hf, ← language_of_ofContents hf]

/-- A set of contents is made again of its contents. -/
theorem ofList_contents (m : List (String × String)) :
    ofList ((ofContents m).files.map fun f => .of f.path f.content) = ofContents m := by
  have hfiles : (ofContents m).files.map (fun f => File.of f.path f.content) = (ofContents m).files := by
    conv => rhs; rw [← List.map_id (ofContents m).files]
    exact List.map_congr_left fun f hf => of_path_content hf
  rw [hfiles, ofList_files]

/-! ## The forms are read -/

theorem ofDocument_of_unwrapped (h : Load.unwrapped v = (ofContents m).bareForm) :
    ofDocument v = .ok (ofContents m) := by
  have hload : ((ofContents m).contents.map fun e => (e.1, Value.str e.2)).mapM
      (fun c => Load.fileOfContent c.1 c.2) =
        .ok ((ofContents m).files.map fun f => File.of f.path f.content) := by
    rw [contents, List.map_map]
    exact mapM_eq_ok_iff.mpr (List.forall₂_map_left_iff.mpr (List.forall₂_map_right_iff.mpr
      (List.forall₂_same.mpr fun _ _ => rfl)))
  unfold ofDocument
  rw [h, bareForm_eq]
  dsimp only
  rw [hload]
  exact congrArg Except.ok (ofList_contents m)

/-- An entry of a path and a content gives its file. -/
theorem fileOfEntry_object (path content : String) :
    Load.fileOfEntry (.object [("path", path), ("content", content)]) = .ok (.of path content) := by
  let v := Value.object [("path", .str path), ("content", .str content)]
  have hpath : v.field? "path" = some (.str path) := by simp [v, Value.field?_object]
  have hcontent : v.field? "content" = some (.str content) := by simp [v, Value.field?_object]
  have hlanguage : v.field? "language" = none := by simp [v, Value.field?_object]
  obtain ⟨fs, hfs⟩ : ∃ fs, v = .obj fs := ⟨_, rfl⟩
  rw [hfs] at hpath hcontent hlanguage
  show Load.fileOfEntry v = _
  rw [hfs, Load.fileOfEntry]
  simp only [Load.fieldOf, hpath, hcontent, hlanguage]
  rfl

theorem ofDocument_listForm (m : List (String × String)) :
    ofDocument (ofContents m).listForm = .ok (ofContents m) := by
  have hload : ((ofContents m).files.map fun f => Value.object [("path", f.path), ("content", f.content)]).mapM
      (fun e => (Load.fileOfEntry e).mapError (ShapeFault.badEntry e)) =
        .ok ((ofContents m).files.map fun f => File.of f.path f.content) := by
    refine mapM_eq_ok_iff.mpr (List.forall₂_map_left_iff.mpr (List.forall₂_map_right_iff.mpr
      (List.forall₂_same.mpr fun f _ => ?_)))
    rw [fileOfEntry_object]
    rfl
  show (ofList <$> _) = _
  rw [hload]
  exact congrArg Except.ok (ofList_contents m)

/-- **A set that is not the one file `files` is read off its bare contents.** -/
theorem ofDocument_bareForm (h : (ofContents m).paths ≠ ["files"]) :
    ofDocument (ofContents m).bareForm = .ok (ofContents m) := by
  refine ofDocument_of_unwrapped ?_
  unfold Load.unwrapped
  split
  · -- contents that look like a request have only the path `files`
    rename_i hv
    rw [bareForm_eq] at hv
    have hnames := congrArg (List.map (·.1)) (Value.obj.inj hv)
    rw [names_bareForm] at hnames
    exact absurd hnames h
  · rfl

theorem ofDocument_bareForm_files (h : s.paths = ["files"]) : ofDocument s.bareForm = .error .notFiles := by
  obtain ⟨f, hf, hpath⟩ := List.map_eq_singleton_iff.mp h
  have hform : s.bareForm = .obj [("files", .str f.content)] := by
    rw [bareForm_eq, contents, hf, ← hpath]
    rfl
  rw [hform]
  rfl

theorem ofDocument_requestForm (m : List (String × String)) :
    ofDocument (ofContents m).requestForm = .ok (ofContents m) :=
  ofDocument_of_unwrapped rfl

theorem parse_of_written {t : String} (h : Written v t.toList) : parse t = ofDocument v := by
  rw [parse, Json.read_of_written h]

/-- **Every set of contents is read off a request and off a list of entries, and off its bare contents exactly
if it is not the one file `files`.** The same holds of every text that is written as one of these forms. -/
theorem forms_load (m : List (String × String)) :
    (ofDocument (ofContents m).requestForm = .ok (ofContents m) ∧
        ofDocument (ofContents m).listForm = .ok (ofContents m)) ∧
      (ofDocument (ofContents m).bareForm = .ok (ofContents m) ↔ (ofContents m).paths ≠ ["files"]) ∧
      ((ofContents m).paths = ["files"] → ofDocument (ofContents m).bareForm = .error .notFiles) ∧
      ∀ v (t : String), Written v t.toList → parse t = ofDocument v := by
  refine ⟨⟨ofDocument_requestForm m, ofDocument_listForm m⟩, ⟨fun h hpaths => ?_, ofDocument_bareForm⟩,
    ofDocument_bareForm_files, fun v t => parse_of_written⟩
  rw [ofDocument_bareForm_files hpaths] at h
  cases h

/-- A page and a file that has no extension, in all forms. -/
theorem forms_load_page :
    let s := ofContents [("./src/App.tsx", "a"), ("files", "b")]
    s.paths ≠ ["files"] ∧ parse s.bareForm.text = .ok s ∧ parse s.requestForm.text = .ok s ∧
      parse s.listForm.text = .ok s := by
  intro s
  have hpaths : s.paths ≠ ["files"] := by decide +kernel
  obtain ⟨⟨hrequest, hlist⟩, hbare, -, hparse⟩ := forms_load [("./src/App.tsx", "a"), ("files", "b")]
  refine ⟨hpaths, ?_, ?_, ?_⟩
  · rw [hparse _ _ (written_bareForm s), hbare.mpr hpaths]
  · rw [hparse _ _ (written_requestForm s), hrequest]
  · rw [hparse _ _ (written_listForm s), hlist]

/-- The one file `files` is not read off its bare contents. -/
theorem not_load_files :
    let s := ofContents [("files", "x")]
    s.files ≠ [] ∧ ofDocument s.bareForm = .error .notFiles ∧ parse s.bareForm.text = .error .notFiles := by
  intro s
  have hfault := ofDocument_bareForm_files (s := s) (by decide +kernel)
  exact ⟨by decide +kernel, hfault, by rw [parse_of_written (written_bareForm s), hfault]⟩

end FileSet

end AppMend
