import AppMend.Proofs.Bundle.Strategies

/-!
# No import is lost

What a module of a script imports, other than types only, is a module of the script or is left to the host
by it, if the module was read (`BundleConfig.imports_kept`). Two extensions of scripts with types are not
among those of the files that are checked: a module of such an extension is taken for a plain text, so what
it imports is accounted for only if other modules import it. All that a script is made of is due to modules
that were read.

That what is left without types is written and read again with its imports is a hypothesis on the files of
the set, `KeepsValues`.
-/

namespace AppMend

open Bundle Script

/-! ## Scripts that are not read -/

/-- Whether files of a language are scripts. -/
def Language.isScript : Language → Bool
  | tsx | typescript | jsx | javascript => true
  | _ => false

namespace Bundle

variable {f : File} {resolve : String → Resolution} {body : ModuleBody} {path : String}

/-- The extensions of scripts that are taken for plain texts. -/
def unreadExtensions : List String := ["mts", "cts"]

/-- Whether a path names a script that is taken for a plain text. -/
def isUnread (path : String) : Bool := (Path.extension? path).any unreadExtensions.contains

/-- Scripts are checked or are taken for plain texts. -/
theorem isScript_ofExtension (ext : String) :
    (Language.ofExtension ext).isScript = (codeExtensions.contains ext || unreadExtensions.contains ext) := by
  by_cases hext : ext ∈ codeExtensions ++ unreadExtensions
  · have hall : ∀ e ∈ codeExtensions ++ unreadExtensions, (Language.ofExtension e).isScript =
        (codeExtensions.contains e || unreadExtensions.contains e) := by decide
    exact hall ext hext
  · have hnone : (codeExtensions.contains ext || unreadExtensions.contains ext) = false := by
      simpa using hext
    rw [hnone]
    -- the languages of the extensions in the lists are out of the question
    unfold Language.ofExtension
    split <;> simp_all [codeExtensions, unreadExtensions, Language.isScript]

theorem isScript_ofPath (path : String) :
    (Language.ofPath path).isScript = (isCodePath path || isUnread path) := by
  unfold Language.ofPath isCodePath isUnread
  cases Path.extension? path with
  | none => rfl
  | some ext => exact isScript_ofExtension ext

theorem exists_extension_of_isUnread (h : isUnread path = true) :
    ∃ ext ∈ unreadExtensions, Path.extension? path = some ext := by
  obtain ⟨ext, he, hmem⟩ := (Option.any_eq_true _ _).mp h
  exact ⟨ext, List.contains_iff_mem.mp hmem, he⟩

theorem isCodePath_of_isUnread (h : isUnread path = true) : isCodePath path = false := by
  obtain ⟨ext, hmem, he⟩ := exists_extension_of_isUnread h
  have hall : ∀ e ∈ unreadExtensions, codeExtensions.contains e = false := by decide
  rw [isCodePath, he]
  exact hall ext hmem

/-- **A script that is not read is exported as its text**, and imports nothing. -/
theorem compileFile_of_isUnread (hl : f.language = .ofPath f.path) (h : isUnread f.path = true)
    (resolve : String → Resolution) : compileFile f resolve =
      .ok ⟨"exports.default = " ++ Json.quote f.content ++ ";", []⟩ := by
  obtain ⟨ext, hmem, he⟩ := exists_extension_of_isUnread h
  have hlanguage : f.language = .typescript := by
    have hall : ∀ e ∈ unreadExtensions, Language.ofExtension e = .typescript := by decide
    rw [hl, Language.ofPath, he]
    exact hall ext hmem
  have hasset : (Path.extension? f.path).any assetExtensions.contains = false := by
    have hall : ∀ e ∈ unreadExtensions, assetExtensions.contains e = false := by decide
    rw [he]
    exact hall ext hmem
  have hcode : f.isCode = false := isCodePath_of_isUnread h
  rw [compileFile, hlanguage]
  simp only [hcode, hasset]
  rfl

/-! ## What scripts import -/

/-- What a file imports or passes on by its text, other than types only, in order. -/
def valueImports (f : File) : List String :=
  match readModule (.ofPath f.path) f.content.toList with
  | .ok s => ((s.items.map (·.body)).filter (!·.isTypeOnly)).filterMap Stmt.source?
  | .error _ => []

/-- Whether the plain form of a file, read again, asks for all that the statements it is made of import or
pass on. -/
def KeepsValues (f : File) : Prop :=
  ∀ s ∈ (readModule (.ofPath f.path) f.content.toList).toOption,
    ∀ code ∈ (plainForm f.path f.content.toList).toOption,
    ∀ t ∈ (readModule .plain code.toList).toOption,
    ∀ name ∈ (valueStatements (.ofPath f.path) s).filterMap Stmt.source?,
      name ∈ t.items.filterMap fun i => requested? i.body

instance (f : File) : Decidable (KeepsValues f) :=
  inferInstanceAs (Decidable (∀ s ∈ (readModule (.ofPath f.path) f.content.toList).toOption,
    ∀ code ∈ (plainForm f.path f.content.toList).toOption,
    ∀ t ∈ (readModule .plain code.toList).toOption,
    ∀ name ∈ (valueStatements (.ofPath f.path) s).filterMap Stmt.source?,
      name ∈ t.items.filterMap fun i => requested? i.body))

/-- What is imported other than types only is left without types. -/
theorem mem_valueStatements (d : Dialect) (s : Script) {name : String}
    (hn : name ∈ ((s.items.map (·.body)).filter (!·.isTypeOnly)).filterMap Stmt.source?) :
    name ∈ (valueStatements d s).filterMap Stmt.source? := by
  unfold valueStatements
  split
  · rwa [sources_eraseTypes]
  · obtain ⟨x, hx, hsource⟩ := List.mem_filterMap.mp hn
    exact List.mem_filterMap.mpr ⟨x, List.mem_of_mem_filter hx, hsource⟩

/-- **The body of a script asks for all that its text imports**, other than types only. -/
theorem mem_requests_of_mem_valueImports (hs : isScript f = true) (hk : KeepsValues f)
    (h : compileFile f resolve = .ok body) {name : String} (hn : name ∈ valueImports f) :
    name ∈ body.requests := by
  obtain ⟨code, hp, hbody⟩ := (compileFile_eq_ok_iff hs).mp h
  obtain ⟨t, ht, hreq⟩ := requests_ofCode hbody
  obtain ⟨s, hread⟩ := readModule_of_plainForm hp
  rw [valueImports, hread] at hn
  rw [hreq]
  exact hk s (by rw [hread]; rfl) code (by rw [hp]; rfl) t (by rw [ht]; rfl) name
    (mem_valueStatements _ s hn)

end Bundle

namespace BundleConfig

variable {c : BundleConfig} {files : FileSet} {entry : Option String} {a : BundleArtifact}
  {m name path : String} {f : File}

/-! ## Imports that are accounted for -/

/-- Whether a bundle accounts for an import of a module: it stands for a module of the bundle, or is left
to the host by it. -/
def AccountsFor (c : BundleConfig) (files : FileSet) (a : BundleArtifact) (m name : String) : Prop :=
  (∃ q ∈ a.modules, Resolution.of files c.aliases m name = .inside q) ∨
    name ∈ a.externalized ∧ Resolution.of files c.aliases m name = .outside name

/-- Whether a bundle accounts for all that the text of a module imports, other than types only. -/
def AccountsForImports (c : BundleConfig) (files : FileSet) (a : BundleArtifact) (m : String) : Prop :=
  ∀ f, files.get? m = some f → ∀ name ∈ valueImports f, c.AccountsFor files a m name

/-- What a module was found to import when it was read is accounted for. -/
theorem Closed.accountsFor (ha : c.Closed files entry a) (hm : m ∈ a.modules)
    (hn : name ∈ c.importsOf files m) : c.AccountsFor files a m name := by
  cases hr : Resolution.of files c.aliases m name with
  | inside q => exact .inl ⟨q, ha.closed m hm q (mem_localImports.mpr ⟨name, hn, hr⟩), hr⟩
  | outside x =>
      obtain rfl := Resolution.eq_of_outside hr
      exact .inr ⟨(ha.mem_externalized_iff x).mpr ⟨m, hm, hn, hr⟩, hr⟩

/-- What is found for a module of a bundle is the file of that very path. -/
theorem Closed.file_eq (ha : c.Closed files entry a) (hm : m ∈ a.modules) (hf : files.get? m = some f) :
    f ∈ files.files ∧ f.path = m := by
  obtain ⟨hmem, hp⟩ := FileSet.get?_eq_some_iff.mp hf
  exact ⟨hmem, hp.trans (ha.filed m hm).2⟩

section Script

variable (hl : ∀ f ∈ files.files, f.language = .ofPath f.path)
  (ha : c.asScript.Closed files entry a)
include hl ha

/-- A module that is not read is exported as its text. -/
theorem exists_text_of_isUnread (hm : m ∈ a.modules) (hu : isUnread m = true) : ∃ f, files.get? m = some f ∧
    ∀ resolve, compileFile f resolve = .ok ⟨"exports.default = " ++ Json.quote f.content ++ ";", []⟩ := by
  obtain ⟨f, _, hf, _⟩ := ha.exists_body hm
  obtain ⟨hmem, rfl⟩ := ha.file_eq hm hf
  exact ⟨f, hf, compileFile_of_isUnread (hl f hmem) hu⟩

/-- A module that is not read imports nothing in a script. -/
theorem importsOf_of_isUnread (hm : m ∈ a.modules) (hu : isUnread m = true) :
    c.asScript.importsOf files m = [] := by
  obtain ⟨f, body, hf, hb, hi⟩ := ha.exists_body hm
  obtain ⟨g, hg, htext⟩ := exists_text_of_isUnread hl ha hm hu
  obtain rfl := Option.some.inj (hf.symm.trans hg)
  rw [htext] at hb
  rw [hi, ← Except.ok.inj hb]

/-- What the text of a module that is read imports, it imports in a script. -/
theorem mem_importsOf_of_mem_valueImports (hk : ∀ f ∈ files.files, f.isCode = true → KeepsValues f)
    (hm : m ∈ a.modules) (hcode : isCodePath m = true) (hf : files.get? m = some f)
    (hn : name ∈ valueImports f) : name ∈ c.asScript.importsOf files m := by
  obtain ⟨g, body, hg, hb, hi⟩ := ha.exists_body hm
  obtain rfl := Option.some.inj (hf.symm.trans hg)
  obtain ⟨hmem, rfl⟩ := ha.file_eq hm hf
  have hs : isScript f = true := by rw [isScript_eq_isCode (hl f hmem)]; exact hcode
  rw [hi]
  exact mem_requests_of_mem_valueImports hs (hk f hmem hcode) hb hn

/-- All modules are reached by way of modules that are read. -/
theorem reachable_iff_read : m ∈ a.modules ↔
    Relation.ReflTransGen (fun p q => isUnread p = false ∧ c.asScript.Leads files p q) a.entryPoint m := by
  rw [ha.reachable_iff]
  refine ⟨fun h => ?_, fun h => Relation.ReflTransGen.mono (fun _ _ hlead => hlead.2) _ _ h⟩
  induction h with
  | refl => exact .refl
  | @tail p q hreach hlead ih =>
      refine ih.tail ⟨?_, hlead⟩
      rw [Bool.eq_false_iff]
      intro hu
      obtain ⟨name, hname, _⟩ := mem_localImports.mp hlead
      rw [importsOf_of_isUnread hl ha ((ha.reachable_iff p).mpr hreach) hu] at hname
      cases hname

/-- All that is left to the host is imported by modules that are read. -/
theorem exists_read_of_mem_externalized (hn : name ∈ a.externalized) :
    ∃ m ∈ a.modules, isUnread m = false ∧ name ∈ c.asScript.importsOf files m := by
  obtain ⟨m, hm, himport, _⟩ := (ha.mem_externalized_iff name).mp hn
  refine ⟨m, hm, ?_, himport⟩
  rw [Bool.eq_false_iff]
  intro hu
  rw [importsOf_of_isUnread hl ha hm hu] at himport
  cases himport

end Script

/-- **No import of a module that is read is lost.** What the modules of a script import, other than types
only, is accounted for exactly if it is for the modules that are not read. Those are exported as their
texts: all modules are reached, and all that is left to the host is imported, by way of the others. -/
theorem imports_kept (c : BundleConfig) (files : FileSet) (entry : Option String)
    (hl : ∀ f ∈ files.files, f.language = .ofPath f.path)
    (hk : ∀ f ∈ files.files, f.isCode = true → KeepsValues f)
    (h : c.asScript.bundle files entry = .ok a) :
    (∀ m ∈ a.modules, (Language.ofPath m).isScript = true → isUnread m = false →
      c.AccountsForImports files a m) ∧
    ((∀ m ∈ a.modules, (Language.ofPath m).isScript = true → c.AccountsForImports files a m) ↔
      ∀ m ∈ a.modules, isUnread m = true → c.AccountsForImports files a m) ∧
    (∀ m ∈ a.modules, isUnread m = true → ∃ f, files.get? m = some f ∧
      ∀ resolve, compileFile f resolve = .ok ⟨"exports.default = " ++ Json.quote f.content ++ ";", []⟩) ∧
    (∀ m, m ∈ a.modules ↔ Relation.ReflTransGen
      (fun p q => isUnread p = false ∧ c.asScript.Leads files p q) a.entryPoint m) ∧
    ∀ name ∈ a.externalized, ∃ m ∈ a.modules, isUnread m = false ∧
      name ∈ c.asScript.importsOf files m := by
  have ha := closed_of_bundle h
  have hread (m : String) (hm : m ∈ a.modules) (hs : (Language.ofPath m).isScript = true)
      (hu : isUnread m = false) : c.AccountsForImports files a m := by
    intro f hf name hn
    have hcode : isCodePath m = true := by simpa [isScript_ofPath, hu] using hs
    exact ha.accountsFor hm (mem_importsOf_of_mem_valueImports hl ha hk hm hcode hf hn)
  refine ⟨hread, ⟨fun hall m hm hu => ?_, fun hunread m hm hs => ?_⟩,
    fun _ hm hu => exists_text_of_isUnread hl ha hm hu, fun _ => reachable_iff_read hl ha,
    fun _ hn => exists_read_of_mem_externalized hl ha hn⟩
  · exact hall m hm (by rw [isScript_ofPath, hu, Bool.or_true])
  · cases hu : isUnread m with
    | true => exact hunread m hm hu
    | false => exact hread m hm hs hu

/-- A script that is not read, and one that is and passes on the same file; that file imports a package for
a value beside a type. -/
def mixed : FileSet :=
  .ofContents [
    ("main.tsx", "import './u.mjs';\nimport './w.cts';\n"),
    ("u.mjs", "export * from './v';\n"),
    ("v.ts", "import { type T, f } from 'zod';\nf();\n"),
    ("w.cts", "import './v';\n")]

/-- The package is left to the host and the file is a module, so what the script imports that is not read is
accounted for as well. -/
theorem imports_kept_mixed :
    ∃ a, (asScript {}).bundle mixed none = .ok a ∧
      a.modules = ["main.tsx", "u.mjs", "w.cts", "v.ts"] ∧ a.externalized = ["zod"] ∧
      isUnread "w.cts" = true ∧
      ∀ m ∈ a.modules, (Language.ofPath m).isScript = true → AccountsForImports {} mixed a m := by
  have hmade : ((asScript {}).bundle mixed none).toOption.map (fun a => (a.modules, a.externalized)) =
      some (["main.tsx", "u.mjs", "w.cts", "v.ts"], ["zod"]) := by decide +kernel
  obtain ⟨a, ha, hpair⟩ := exists_ok_of_map hmade
  obtain ⟨hm, he⟩ := Prod.mk.inj hpair
  have hunread : ∀ m ∈ ["main.tsx", "u.mjs", "w.cts", "v.ts"], isUnread m = true → m = "w.cts" := by
    decide +kernel
  have hfile : mixed.get? "w.cts" = some (.of "w.cts" "import './v';\n") := by decide +kernel
  have hnames : valueImports (.of "w.cts" "import './v';\n") = ["./v"] := by decide +kernel
  have hinside : Resolution.of mixed (asScript {}).aliases "w.cts" "./v" = .inside "v.ts" := by
    decide +kernel
  obtain ⟨_, hiff, _⟩ := imports_kept {} mixed none (by decide +kernel) (by decide +kernel) ha
  refine ⟨a, ha, hm, he, by decide, hiff.mpr fun m hmem hu f hf name hn => ?_⟩
  obtain rfl := hunread m (hm ▸ hmem) hu
  obtain rfl := Option.some.inj (hfile.symm.trans hf)
  rw [hnames, List.mem_singleton] at hn
  subst hn
  exact .inl ⟨"v.ts", by rw [hm]; decide, hinside⟩

/-- A script that is not read, and a file that it alone imports. -/
def overlooked : FileSet :=
  .ofContents [
    ("main.tsx", "import './u.mts';\n"), ("u.mts", "import './v';\n"), ("v.ts", "")]

/-- **An import of a script that is not read is lost**: it stands for a file, which is no module. -/
theorem import_lost :
    (∀ f ∈ overlooked.files, f.language = .ofPath f.path) ∧ (∀ f ∈ overlooked.files, KeepsValues f) ∧
      ∃ a f, (asScript {}).bundle overlooked none = .ok a ∧ "u.mts" ∈ a.modules ∧
        (Language.ofPath "u.mts").isScript = true ∧ overlooked.get? "u.mts" = some f ∧
        "./v" ∈ valueImports f ∧ ¬AccountsFor {} overlooked a "u.mts" "./v" := by
  have hmade : ((asScript {}).bundle overlooked none).toOption.map (·.modules) =
      some ["main.tsx", "u.mts"] := by decide +kernel
  obtain ⟨a, ha, hm⟩ := exists_ok_of_map hmade
  have hinside : Resolution.of overlooked (asScript {}).aliases "u.mts" "./v" = .inside "v.ts" := by
    decide +kernel
  have hfile : overlooked.get? "u.mts" = some (.of "u.mts" "import './v';\n") := by decide +kernel
  refine ⟨by decide +kernel, by decide +kernel, a, _, ha, by rw [hm]; decide, rfl, hfile,
    by decide +kernel, ?_⟩
  rintro (⟨q, hq, hr⟩ | ⟨_, hr⟩)
  · obtain rfl : "v.ts" = q := Resolution.inside.inj (hinside.symm.trans hr)
    rw [hm] at hq
    exact absurd hq (by decide)
  · cases hinside.symm.trans hr

end BundleConfig

end AppMend
