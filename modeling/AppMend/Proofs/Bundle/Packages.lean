import AppMend.Proofs.Bundle.Host

/-!
# The packages that a file map asks for

A file map asks its host for packages, by name and version. It leaves to the host only what looks like no
file, and asks for the package of each such specifier, however many of them it provides. A bare specifier
names its package (`Resolution.NamesPackage`): that is the name at its head, or the first two names if it
has a scope. What else looks like no file names no package, a URL above all. It is taken for a bare specifier
nevertheless, and the package that is asked for is the part of it up to the first slash. So a file map asks
for the packages that bare specifiers name, and for no others, exactly if nothing else is left to the host
that yields a name of its own (`BundleConfig.lists_packages`).
-/

namespace AppMend

open Bundle

/-! ## Bare specifiers and URLs -/

namespace Resolution

variable {specifier package : String}

/-- A character of the scheme of a URL. -/
def IsSchemePart (c : Char) : Prop := c.isAlphanum = true ∨ c ∈ ['+', '-', '.']

/-- The scheme of a URL, which stands before `://`. -/
inductive HasScheme : String → String → Prop where
  | mk (first : Char) (more rest : List Char) : first.isAlpha = true → (∀ c ∈ more, IsSchemePart c) →
      HasScheme (String.ofList (first :: more ++ "://".toList ++ rest)) (String.ofList (first :: more))

def IsUrl (specifier : String) : Prop := ∃ scheme, HasScheme specifier scheme

/-- A name between slashes. -/
def IsPart (part : List Char) : Prop := part ≠ [] ∧ '/' ∉ part

/-- What may follow the name of a package: nothing, or a path within it. -/
def IsWithin (rest : List Char) : Prop := rest = [] ∨ rest.head? = some '/'

/-- The package that a specifier names by its form. -/
inductive NamesPackage : String → String → Prop where
  | unscoped {name within : List Char} : IsPart name → name.head? ≠ some '@' → IsWithin within →
      NamesPackage (String.ofList (name ++ within)) (String.ofList name)
  | inScope {scope name within : List Char} : IsPart scope → IsPart name → IsWithin within →
      NamesPackage (String.ofList ('@' :: scope ++ '/' :: name ++ within))
        (String.ofList ('@' :: scope ++ '/' :: name))

/-- Neither relative nor absolute, covered by no alias, and no URL. -/
def IsBare (aliases : Aliases) (specifier : String) : Prop :=
  isRelative specifier = false ∧ ¬Covers aliases specifier ∧ ¬IsUrl specifier

theorem isLocal_eq_false_iff {aliases : Aliases} : isLocal aliases specifier = false ↔
    isRelative specifier = false ∧ ¬Covers aliases specifier := by
  rw [isLocal, Bool.or_eq_false_iff, ← Bool.not_eq_true (aliases.any _), List.any_eq_true]
  simp only [List.isPrefixOf_iff_prefix, Covers]

/-! ## Package names -/

/-- The part of a text up to the first slash. -/
theorem takeWhile_part {part within : List Char} (hpart : '/' ∉ part) (hwithin : IsWithin within) :
    (part ++ within).takeWhile (· != '/') = part := by
  have hall : ∀ c ∈ part, (c != '/') = true := by
    intro c hc
    simpa using fun heq : c = '/' => hpart (heq ▸ hc)
  rw [List.takeWhile_append_of_pos hall]
  rcases hwithin with rfl | hslash
  · simp
  · obtain ⟨rest, rfl⟩ : ∃ rest, within = '/' :: rest := by
      cases within with
      | nil => cases hslash
      | cons c rest => exact ⟨rest, by rw [Option.some.inj hslash]⟩
    simp

/-- **The package of a specifier is the one that it names.** -/
theorem packageName_of_namesPackage (h : NamesPackage specifier package) :
    packageName specifier = package := by
  cases h with
  | @unscoped name within hname hscope hwithin =>
      have hfirst := takeWhile_part hname.2 hwithin
      simp only [packageName, String.toList_ofList, hfirst]
      rw [if_neg fun h => hscope h.1]
  | @inScope scope name within hscope hname hwithin =>
      have hslash : '/' ∉ '@' :: scope := by simpa using hscope.2
      have hfirst : ('@' :: scope ++ '/' :: name ++ within).takeWhile (· != '/') = '@' :: scope := by
        rw [List.append_assoc]
        exact takeWhile_part hslash (.inr rfl)
      have hdrop : ('@' :: scope ++ '/' :: name ++ within).drop (('@' :: scope).length + 1) =
          name ++ within := by
        rw [List.append_assoc, List.drop_append]
        simp
      have hlength : ('@' :: scope).length < ('@' :: scope ++ '/' :: name ++ within).length := by
        simp only [List.length_append, List.length_cons]
        omega
      simp only [packageName, String.toList_ofList, hfirst, hdrop, takeWhile_part hname.2 hwithin]
      rw [if_pos ⟨rfl, hlength⟩]

/-- The package of a URL is its scheme, with the colon after it. -/
theorem packageName_of_hasScheme {scheme : String} (h : HasScheme specifier scheme) :
    packageName specifier = scheme ++ ":" := by
  obtain ⟨first, more, rest, hfirst, hmore⟩ := h
  have hpart : ∀ c, IsSchemePart c ∨ c.isAlpha = true → c ≠ '/' ∧ c ≠ '@' := by
    rintro c hc
    constructor <;> rintro rfl <;> revert hc <;> unfold IsSchemePart <;> decide
  have hslash : '/' ∉ first :: more ++ [':'] := by
    intro hmem
    rcases List.mem_append.mp hmem with hmem | hmem
    · rcases List.mem_cons.mp hmem with heq | hmem
      · exact (hpart first (.inr hfirst)).1 heq.symm
      · exact (hpart '/' (.inl (hmore _ hmem))).1 rfl
    · exact absurd hmem (by decide)
  have htake : (first :: more ++ "://".toList ++ rest).takeWhile (· != '/') = first :: more ++ [':'] := by
    have heq : first :: more ++ "://".toList ++ rest = (first :: more ++ [':']) ++ ('/' :: '/' :: rest) := by
      simp
    rw [heq]
    exact takeWhile_part hslash (.inr rfl)
  have hscope : ¬(first :: more ++ [':']).head? = some '@' := by
    simpa using (hpart first (.inr hfirst)).2
  simp only [packageName, String.toList_ofList, htake]
  rw [if_neg fun h => hscope h.1, String.ofList_append]

/-- What a URL is taken for ends with a colon. -/
theorem not_isUrl (h : (packageName specifier).toList.getLast? ≠ some ':') : ¬IsUrl specifier := by
  rintro ⟨scheme, hscheme⟩
  apply h
  rw [packageName_of_hasScheme hscheme, String.toList_append]
  exact List.getLast?_concat

end Resolution

/-! ## Versions -/

namespace Bundle

variable {files : FileSet} {aliases : Aliases} {externals : List String} {list name version : String}

/-- Whether the package file of a set declares a version of a package in one of its lists. -/
def Declares (files : FileSet) (list name version : String) : Prop :=
  ∃ f package fields, files.get? "package.json" = some f ∧ Json.read f.content.toList = .ok package ∧
    package.field? list = some (.obj fields) ∧ (name, .str version) ∈ fields

/-- The version of a package that a package file asks for: one that it declares for development, or else
one that it declares for use, or else any. -/
inductive HasVersion (files : FileSet) (name : String) : String → Prop where
  | development (version : String) : Declares files "devDependencies" name version →
      HasVersion files name version
  | use (version : String) : (∀ v, ¬Declares files "devDependencies" name v) →
      Declares files "dependencies" name version → HasVersion files name version
  | latest : (∀ v, ¬Declares files "devDependencies" name v) →
      (∀ v, ¬Declares files "dependencies" name v) → HasVersion files name "latest"

theorem mem_versionsIn {package : Json.Value} : (name, version) ∈ versionsIn package list ↔
    ∃ fields, package.field? list = some (.obj fields) ∧ (name, .str version) ∈ fields := by
  have hstr (v : Json.Value) : v.str? = some version ↔ v = .str version := by
    cases v <;> simp [Json.Value.str?]
  have hobj (v : Json.Value) (fields : List (String × Json.Value)) :
      v.obj? = some fields ↔ v = .obj fields := by
    cases v <;> simp [Json.Value.obj?]
  -- an entry is kept if its value is a text
  have hkept (e : String × Json.Value) :
      (e.2.str?.map fun v => (e.1, v)) = some (name, version) ↔ e = (name, .str version) := by
    rw [Option.map_eq_some_iff]
    constructor
    · rintro ⟨v, hv, heq⟩
      obtain ⟨rfl, rfl⟩ := Prod.mk.inj heq
      exact Prod.ext rfl ((hstr _).mp hv)
    · rintro rfl
      exact ⟨version, rfl, rfl⟩
  unfold versionsIn
  rw [List.mem_filterMap]
  simp only [hkept]
  constructor
  · rintro ⟨e, hmem, rfl⟩
    cases hfields : (package.field? list).bind Json.Value.obj? with
    | none =>
        rw [hfields] at hmem
        cases hmem
    | some fields =>
        rw [hfields] at hmem
        obtain ⟨v, hv, ho⟩ := Option.bind_eq_some_iff.mp hfields
        exact ⟨fields, by rw [hv, (hobj v fields).mp ho], hmem⟩
  · rintro ⟨fields, hfields, hmem⟩
    exact ⟨_, by rw [hfields]; exact hmem, rfl⟩

/-- A table of two lists, one after the other, has the version that the second says, or else the first. -/
theorem version_of_lists {first second : List (String × String)} {v : String}
    (h : (Table.ofList (first ++ second)).get? name = some v) :
    (name, v) ∈ second ∨ (∀ w, (name, w) ∉ second) ∧ (name, v) ∈ first := by
  rw [Table.get?_eq_some_iff (Table.ascending_ofList _), Table.mem_ofList_iff_last,
    List.reverse_append, List.find?_append] at h
  cases hfind : second.reverse.find? (fun x => x.1 == name) with
  | some e =>
      rw [hfind] at h
      rw [Option.some_or, Option.some_inj] at h
      exact .inl (h ▸ List.mem_reverse.mp (List.mem_of_find?_eq_some hfind))
  | none =>
      rw [hfind, Option.none_or] at h
      refine .inr ⟨fun w hw => ?_, List.mem_reverse.mp (List.mem_of_find?_eq_some h)⟩
      exact List.find?_eq_none.mp hfind _ (List.mem_reverse.mpr hw) (beq_self_eq_true name)

/-- What is not in a table is not in the list that the table was made from. -/
theorem not_mem_of_get?_eq_none {versions : List (String × String)}
    (h : (Table.ofList versions).get? name = none) (v : String) : (name, v) ∉ versions := by
  intro hmem
  have hname : name ∈ (Table.ofList versions).names :=
    Table.mem_names_ofList.mpr (List.mem_map.mpr ⟨_, hmem, rfl⟩)
  obtain ⟨e, he, rfl⟩ := List.mem_map.mp hname
  rw [(Table.get?_eq_some_iff (Table.ascending_ofList _)).mpr he] at h
  cases h

/-- The versions that the package file of a set declares in one of its lists. -/
def declaredIn (files : FileSet) (list : String) : List (String × String) :=
  match files.get? "package.json" with
  | none => []
  | some f => ((Json.read f.content.toList).toOption.map fun package => versionsIn package list).getD []

theorem declares_iff : Declares files list name version ↔ (name, version) ∈ declaredIn files list := by
  unfold Declares declaredIn
  cases files.get? "package.json" with
  | none => simp
  | some f =>
      cases hread : Json.read f.content.toList with
      | error e => simp [hread, Except.toOption]
      | ok package => simp [hread, Except.toOption, mem_versionsIn]

theorem declaredVersions_eq (files : FileSet) : declaredVersions files =
    Table.ofList (declaredIn files "dependencies" ++ declaredIn files "devDependencies") := by
  unfold declaredVersions declaredIn
  cases files.get? "package.json" with
  | none => rfl
  | some f =>
      cases hread : Json.read f.content.toList with
      | error e => simp only [hread]; rfl
      | ok package => simp only [hread]; rfl

/-- **The version of a package is one that the package file declares for it, or else any.** -/
theorem hasVersion (files : FileSet) (name : String) :
    HasVersion files name (((declaredVersions files).get? name).getD "latest") := by
  have hnone {list : String} (h : ∀ v, (name, v) ∉ declaredIn files list) (v : String) :
      ¬Declares files list name v := fun hd => h v (declares_iff.mp hd)
  rw [declaredVersions_eq]
  cases hversion : (Table.ofList
      (declaredIn files "dependencies" ++ declaredIn files "devDependencies")).get? name with
  | some v =>
      rcases version_of_lists hversion with hdevelopment | ⟨hno, huse⟩
      · exact .development v (declares_iff.mpr hdevelopment)
      · exact .use v (hnone hno) (declares_iff.mpr huse)
  | none =>
      have hno (v : String) := not_mem_of_get?_eq_none hversion v
      exact .latest (hnone fun v hmem => hno v (List.mem_append_right _ hmem))
        (hnone fun v hmem => hno v (List.mem_append_left _ hmem))

end Bundle

namespace BundleConfig

variable {c : BundleConfig} {files : FileSet} {entry : Option String} {a : BundleArtifact}
  {name : String} {contents versions : Table String}

/-! ## What is asked for -/

/-- What a file map leaves to the host looks like no file. -/
theorem isLocal_eq_false_of_externalized (hs : c.strategy = .fileMap) (h : c.bundle files entry = .ok a)
    (hn : name ∈ a.externalized) : Resolution.isLocal c.aliases name = false := by
  obtain ⟨m, hm, hi, ho⟩ := ((closed_of_bundle h).mem_externalized_iff name).mp hn
  exact isLocal_eq_false_of_bundle hs h hm hi ho

/-- Whether a bare specifier among those left to the host names a package. -/
def IsAskedFor (aliases : Aliases) (externals : List String) (package : String) : Prop :=
  ∃ name ∈ externals, Resolution.IsBare aliases name ∧ Resolution.NamesPackage name package

/-- What a file map asks for. -/
structure AsksFor (c : BundleConfig) (files : FileSet) (a : BundleArtifact) (versions : Table String) :
    Prop where
  /-- Each package once. -/
  ascending : versions.Ascending
  /-- Nothing is left to the host that is relative or absolute or that an alias covers. -/
  no_file : ∀ name ∈ a.externalized,
    Resolution.isRelative name = false ∧ ¬Resolution.Covers c.aliases name
  /-- The packages of all that is left to the host. -/
  names_iff : ∀ package, package ∈ versions.names ↔
    ∃ name ∈ a.externalized, Resolution.packageName name = package
  /-- A bare specifier has the package that it names. -/
  asked : ∀ package, IsAskedFor c.aliases a.externalized package → package ∈ versions.names
  /-- A URL has its scheme for a package. -/
  scheme : ∀ name ∈ a.externalized, ∀ scheme, Resolution.HasScheme name scheme →
    scheme ++ ":" ∈ versions.names
  version : ∀ e ∈ versions, HasVersion files e.1 e.2

/-- **A file map asks for the packages of what it leaves to the host**, in the versions that are declared.
These are the packages that bare specifiers name, and no others, exactly if whatever names no package has the
package of something that does. -/
theorem lists_packages (h : c.bundle files entry = .ok a) (hout : a.output = .fileMap contents versions) :
    AsksFor c files a versions ∧
      ((∀ package, package ∈ versions.names ↔ IsAskedFor c.aliases a.externalized package) ↔
        ∀ name ∈ a.externalized,
          Resolution.IsUrl name ∨ (∀ package, ¬Resolution.NamesPackage name package) →
            IsAskedFor c.aliases a.externalized (Resolution.packageName name)) := by
  obtain ⟨hs, rfl⟩ := versions_of_bundle h hout
  have hlocal (name : String) (hn : name ∈ a.externalized) : Resolution.isLocal c.aliases name = false :=
    isLocal_eq_false_of_externalized hs h hn
  have hnames (package : String) : package ∈ (dependencies files c.aliases a.externalized).names ↔
      ∃ name ∈ a.externalized, Resolution.packageName name = package := by
    rw [mem_names_dependencies]
    exact exists_congr fun name => and_congr_right fun hn => by simp [hlocal name hn]
  have hasked (package : String) (hp : IsAskedFor c.aliases a.externalized package) :
      package ∈ (dependencies files c.aliases a.externalized).names := by
    obtain ⟨name, hn, _, hname⟩ := hp
    exact (hnames package).mpr ⟨name, hn, Resolution.packageName_of_namesPackage hname⟩
  refine ⟨{
    ascending := Table.ascending_ofList _
    no_file := fun name hn => Resolution.isLocal_eq_false_iff.mp (hlocal name hn)
    names_iff := hnames
    asked := hasked
    scheme := fun name hn scheme hscheme =>
      (hnames _).mpr ⟨name, hn, Resolution.packageName_of_hasScheme hscheme⟩
    version := fun e he => ?_ }, ?_⟩
  · obtain ⟨name, _, rfl⟩ := List.mem_map.mp (Table.mem_of_mem_ofList he)
    exact hasVersion files _
  · constructor
    · intro hexact name hn _
      exact (hexact _).mp ((hnames _).mpr ⟨name, hn, rfl⟩)
    · intro hothers package
      refine ⟨fun hp => ?_, hasked package⟩
      obtain ⟨name, hn, rfl⟩ := (hnames package).mp hp
      -- what names a package and is no URL is bare, for it was left to the host
      by_cases hodd : Resolution.IsUrl name ∨ ∀ package, ¬Resolution.NamesPackage name package
      · exact hothers name hn hodd
      · obtain ⟨hurl, hnamed⟩ := not_or.mp hodd
        obtain ⟨package, hpackage⟩ := Classical.not_forall_not.mp hnamed
        obtain ⟨hrelative, hcovers⟩ := Resolution.isLocal_eq_false_iff.mp (hlocal name hn)
        rw [Resolution.packageName_of_namesPackage hpackage]
        exact ⟨name, hn, ⟨hrelative, hcovers, hurl⟩, hpackage⟩

/-- An app that imports two parts of one package and a package in a scope. -/
def packaged : FileSet :=
  .ofContents [("main.tsx", "import 'zod';\nimport 'zod/v4';\nimport '@tanstack/react-query';\n"),
    ("package.json", "\x7b\"dependencies\": \x7b\"zod\": \"^3.25.0\"\x7d\x7d")]

/-- Each of the two packages is asked for once, and nothing else is. -/
theorem lists_packages_parts :
    ∃ a contents versions, BundleConfig.bundle { strategy := .fileMap } packaged none = .ok a ∧
      a.output = .fileMap contents versions ∧
      a.externalized = ["@tanstack/react-query", "zod", "zod/v4"] ∧
      versions = [("@tanstack/react-query", "latest"), ("zod", "^3.25.0")] ∧
      ∀ package, package ∈ versions.names ↔ IsAskedFor [("@/", "src/")] a.externalized package := by
  have hmade : (BundleConfig.bundle { strategy := .fileMap } packaged none).toOption.map
      (fun a => (a.externalized, a.output)) = some (["@tanstack/react-query", "zod", "zod/v4"],
        .fileMap [("main.tsx", "import 'zod';\nimport 'zod/v4';\nimport '@tanstack/react-query';\n")]
          [("@tanstack/react-query", "latest"), ("zod", "^3.25.0")]) := by decide +kernel
  obtain ⟨a, ha, hpair⟩ := exists_ok_of_map hmade
  obtain ⟨hexternalized, hout⟩ := Prod.mk.inj hpair
  refine ⟨a, _, _, ha, hout, hexternalized, rfl, (lists_packages ha hout).2.mpr ?_⟩
  have hzod : Resolution.IsPart "zod".toList := ⟨by decide, by decide⟩
  have hnamed : ∀ name ∈ a.externalized, ¬Resolution.IsUrl name ∧
      ∃ package, Resolution.NamesPackage name package := by
    rw [hexternalized]
    intro name hname
    rcases List.mem_cons.mp hname with rfl | hname
    · exact ⟨Resolution.not_isUrl (by decide), _,
        @Resolution.NamesPackage.inScope "tanstack".toList "react-query".toList []
          ⟨by decide, by decide⟩ ⟨by decide, by decide⟩ (.inl rfl)⟩
    · rcases List.mem_cons.mp hname with rfl | hname
      · exact ⟨Resolution.not_isUrl (by decide), _, .unscoped hzod (by decide) (.inl rfl)⟩
      · obtain rfl := List.mem_singleton.mp hname
        exact ⟨Resolution.not_isUrl (by decide), _,
          @Resolution.NamesPackage.unscoped "zod".toList "/v4".toList hzod (by decide) (.inr (by decide))⟩
  intro name hname hodd
  obtain ⟨hurl, package, hpackage⟩ := hnamed name hname
  exact absurd (hodd.resolve_left hurl) (Classical.not_forall_not.mpr ⟨package, hpackage⟩)

/-- **A URL is asked for as a package**: the name of the package is its scheme. -/
theorem url_listed :
    let files : FileSet := .ofContents [("main.tsx", "import 'https://esm.sh/zod';\n")]
    ∃ a contents versions, BundleConfig.bundle { strategy := .fileMap } files none = .ok a ∧
      a.output = .fileMap contents versions ∧ a.externalized = ["https://esm.sh/zod"] ∧
      Resolution.IsUrl "https://esm.sh/zod" ∧ "https:" ∈ versions.names ∧
      ¬IsAskedFor [("@/", "src/")] a.externalized "https:" := by
  intro files
  have hmade : (BundleConfig.bundle { strategy := .fileMap } files none).toOption.map
      (fun a => (a.externalized, a.output)) = some (["https://esm.sh/zod"],
        .fileMap [("main.tsx", "import 'https://esm.sh/zod';\n")] [("https:", "latest")]) := by
    decide +kernel
  obtain ⟨a, ha, hpair⟩ := exists_ok_of_map hmade
  obtain ⟨hexternalized, hout⟩ := Prod.mk.inj hpair
  have hletters : "ttps".toList.all Char.isAlphanum = true := by decide
  have hurl : Resolution.IsUrl "https://esm.sh/zod" :=
    ⟨_, .mk 'h' "ttps".toList "esm.sh/zod".toList (by decide)
      fun c hc => .inl (List.all_eq_true.mp hletters c hc)⟩
  refine ⟨a, _, _, ha, hout, hexternalized, hurl, by decide, ?_⟩
  rintro ⟨name, hname, hbare, _⟩
  rw [hexternalized] at hname
  obtain rfl := List.mem_singleton.mp hname
  exact hbare.2.2 hurl

end BundleConfig

end AppMend
