import AppMend.Proofs.FileSet.Lookup
import AppMend.Proofs.Path
import AppMend.Proofs.Table

/-!
# Sets of files however they came about

A set of files is made of nothing, of a list or of contents by path, and then files are put in or laid
over it, any number of times. `Construction` is such a history. It can be carried out on a set, where the
order of the files and their form are part of the type; and it can be carried out on a plain table of
files by key, which promises nothing. Both come to the same (`table_eq`), so the table is in order and
each of its keys is the canonical path of its file, by the steps themselves.

A set is told by what its paths name (`eq_of_get?`), and that is the latest file of each path
(`get?_overlay`). The laws of overlays follow: several overlays are one with all their files, a second
overlay with the same files changes nothing, and a set is made again of its files.
-/

namespace AppMend.FileSet

variable {s t : FileSet} {f : File} {fs gs : List File} {path : String}

/-! ## What tells a set -/

theorem get?_path (h : f ∈ s.files) : s.get? f.path = some f :=
  get?_eq_some_iff.mpr ⟨h, (normalize_path h).symm⟩

/-- **A set is told by what its paths name.** -/
theorem eq_of_get? (h : ∀ path, s.get? path = t.get? path) : s = t := by
  have hmem (f : File) : f ∈ s.files ↔ f ∈ t.files := by
    constructor
    · intro hf
      exact (get?_eq_some_iff.mp ((h f.path).symm.trans (get?_path hf))).1
    · intro hf
      exact (get?_eq_some_iff.mp ((h f.path).trans (get?_path hf))).1
  have hnodup (s : FileSet) : s.files.Nodup := by
    refine s.ascending.imp ?_
    rintro f g hlt rfl
    exact String.lt_irrefl _ hlt
  refine ext (List.Perm.eq_of_pairwise ?_ s.ascending t.ascending
    ((List.perm_ext_iff_of_nodup (hnodup s) (hnodup t)).mpr hmem))
  intro f g _ _ hlt hlt'
  exact absurd hlt' (String.lt_asymm hlt)

/-! ## Overlays -/

/-- **A second overlay with the same files changes nothing.** -/
theorem overlay_overlay (s : FileSet) (fs : List File) : (s.overlay fs).overlay fs = s.overlay fs := by
  refine eq_of_get? fun path => ?_
  rw [get?_overlay, get?_overlay]
  cases latest? fs path <;> rfl

theorem get?_empty (path : String) : empty.get? path = none := rfl

theorem get?_ofList (fs : List File) (path : String) :
    (ofList fs).get? path = (latest? fs path).map File.filed := by
  rw [ofList, get?_overlay, get?_empty, Option.or_none]

/-- **A set is made again of its files.** -/
theorem ofList_files (s : FileSet) : ofList s.files = s := by
  refine eq_of_get? fun path => ?_
  rw [get?_ofList, latest?_files]
  cases h : s.get? path with
  | none => rfl
  | some f => exact congrArg some (s.filed f (get?_eq_some_iff.mp h).1).filed_eq

/-! ## Files by key -/

/-- The files of a set by their paths. -/
def table (s : FileSet) : Table File := s.files.map fun f => (f.path, f)

/-- Enters a file into a table under the path that it is filed under. -/
def enter (t : Table File) (f : File) : Table File := t.insert f.filed.path f.filed

/-- To put a file in its place among others is to enter it under its path. -/
theorem table_insertFile (f : File) (gs : List File) :
    (insertFile f gs).map (fun g => (g.path, g)) =
      Table.insert f.path f (gs.map fun g => (g.path, g)) := by
  induction gs with
  | nil => rfl
  | cons g gs ih =>
      unfold insertFile
      rw [List.map_cons, Table.insert]
      split
      · rfl
      · split
        · rfl
        · rw [List.map_cons, ih]

theorem table_insert (s : FileSet) (f : File) : (s.insert f).table = enter s.table f :=
  table_insertFile f.filed s.files

theorem table_overlay (s : FileSet) (fs : List File) :
    (s.overlay fs).table = fs.foldl enter s.table := by
  induction fs generalizing s with
  | nil => rfl
  | cons f fs ih =>
      show ((s.insert f).overlay fs).table = fs.foldl enter (enter s.table f)
      rw [ih, table_insert]

theorem table_ofList (fs : List File) : (ofList fs).table = fs.foldl enter [] := table_overlay empty fs

theorem ascending_table (s : FileSet) : s.table.Ascending := List.pairwise_map.mpr s.ascending

/-- A path names what the table has under its canonical form. -/
theorem get?_table (s : FileSet) (path : String) : s.table.get? (Path.normalize path) = s.get? path := by
  rw [Table.get?, table, List.find?_map, Option.map_map]
  exact Option.map_id'

/-! ## Constructions -/

/-- How a set of files came about. -/
inductive Construction where
  | empty
  | ofList (fs : List File)
  | ofContents (m : List (String × String))
  | insert (before : Construction) (f : File)
  | overlay (before : Construction) (fs : List File)

namespace Construction

/-- The set that was made. -/
def set : Construction → FileSet
  | empty => FileSet.empty
  | ofList fs => FileSet.ofList fs
  | ofContents m => FileSet.ofContents m
  | insert before f => before.set.insert f
  | overlay before fs => before.set.overlay fs

/-- The same steps on a table of files by key. -/
def table : Construction → Table File
  | empty => []
  | ofList fs => fs.foldl enter []
  | ofContents m => (m.map fun (p, c) => File.of p c).foldl enter []
  | insert before f => enter before.table f
  | overlay before fs => fs.foldl enter before.table

/-- All files that were put in, one after another. -/
def entered : Construction → List File
  | empty => []
  | ofList fs => fs
  | ofContents m => m.map fun (p, c) => File.of p c
  | insert before f => before.entered ++ [f]
  | overlay before fs => before.entered ++ fs

/-- **The steps come to the same on a table as on a set.** -/
theorem table_eq (c : Construction) : c.table = c.set.table := by
  induction c with
  | empty => rfl
  | ofList fs => exact (table_ofList fs).symm
  | ofContents m => exact (table_ofList _).symm
  | insert before f ih => rw [table, set, table_insert, ih]
  | overlay before fs ih => rw [table, set, table_overlay, ih]

/-- **Whatever the steps, the set is made of all their files at once.** -/
theorem set_eq (c : Construction) : c.set = FileSet.ofList c.entered := by
  induction c with
  | empty => rfl
  | ofList fs => rfl
  | ofContents m => rfl
  | insert before f ih =>
      rw [set, entered, ih, FileSet.ofList, FileSet.ofList, overlay_append]
      rfl
  | overlay before fs ih => rw [set, entered, ih, FileSet.ofList, FileSet.ofList, overlay_append]

/-- What holds of a set of files that came about in some way. -/
structure Lawful (c : Construction) : Prop where
  /-- The keys ascend, so each stands there once. -/
  ascending : c.table.Ascending
  key_canonical : ∀ e ∈ c.table, Path.Canonical e.1
  key_eq : ∀ e ∈ c.table, e.1 = e.2.path
  /-- A file is without a language only if its path tells none. -/
  language : ∀ e ∈ c.table, e.2.language = .other → Language.ofPath e.1 = .other
  /-- A path names what the table has under its canonical form. -/
  get?_eq : ∀ path, c.set.get? path = c.table.get? (Path.normalize path)
  /-- That is the file that was put in last under that path. -/
  get?_latest : ∀ path, c.set.get? path = (latest? c.entered path).map File.filed
  /-- A file that is put in is named by all spellings of its path, and other paths name what they did. -/
  get?_insert : ∀ f path, (c.set.insert f).get? path =
    if Path.normalize path = Path.normalize f.path then some f.filed else c.set.get? path
  overlay_append : ∀ fs gs, (c.set.overlay fs).overlay gs = c.set.overlay (fs ++ gs)
  overlay_idem : ∀ fs, (c.set.overlay fs).overlay fs = c.set.overlay fs
  ofList_files : FileSet.ofList c.set.files = c.set

/-- **A set of files is lawful however it came about.** -/
theorem lawful (c : Construction) : Lawful c where
  ascending := c.table_eq ▸ ascending_table c.set
  key_canonical := by
    intro e he
    rw [table_eq] at he
    obtain ⟨f, hf, rfl⟩ := List.mem_map.mp he
    exact Path.canonical_iff.mpr (normalize_path hf)
  key_eq := by
    intro e he
    rw [table_eq] at he
    obtain ⟨f, _, rfl⟩ := List.mem_map.mp he
    rfl
  language := by
    intro e he
    rw [table_eq] at he
    obtain ⟨f, hf, rfl⟩ := List.mem_map.mp he
    exact (c.set.filed f hf).language_eq
  get?_eq path := by rw [table_eq, get?_table]
  get?_latest path := by rw [set_eq, get?_ofList]
  get?_insert := FileSet.get?_insert c.set
  overlay_append fs gs := (FileSet.overlay_append c.set fs gs).symm
  overlay_idem := overlay_overlay c.set
  ofList_files := FileSet.ofList_files c.set

end Construction

end AppMend.FileSet
