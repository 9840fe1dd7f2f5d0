import AppMend.Proofs.Bundle.Closure

/-!
# What the host provides

A package of the host is left to the host whatever the aliases are, also if one of them covers its name. But
what a file map leaves to the host must not look like a file, and a name that an alias covers does. So such
a package is taken for a file that is not there exactly if an alias covers it; else no bundle fails for it,
and it is among the packages that a file map asks for (`BundleConfig.host_imports`).
-/

namespace AppMend

open Bundle

/-! ## Specifiers that aliases cover -/

namespace Resolution

variable {files : FileSet} {aliases : Aliases} {importer name : String}

/-- Whether an alias of a table covers a specifier: the specifier begins with it. -/
def Covers (aliases : Aliases) (specifier : String) : Prop :=
  ∃ a ∈ aliases, a.1.toList <+: specifier.toList

/-- What the host provides looks like a file exactly if an alias covers it. -/
theorem isLocal_iff_covers (hn : name ∈ hostPackages) : isLocal aliases name = true ↔ Covers aliases name := by
  rw [isLocal, isRelative_of_mem_hostPackages hn, Bool.false_or, List.any_eq_true]
  simp only [List.isPrefixOf_iff_prefix, Covers]

/-- **What the host provides is left to the host**, whatever the aliases are. -/
theorem of_hostPackages (hn : name ∈ hostPackages) : of files aliases importer name = .outside name := by
  have hfind : find? files aliases importer name = none := by
    rw [find?, if_pos (List.contains_iff_mem.mpr hn)]
  rw [of, hfind]

end Resolution

namespace Bundle

/-- **The packages that are asked for** are those of what is left to the host and does not look like a
file. -/
theorem mem_names_dependencies {files : FileSet} {aliases : Aliases} {externals : List String}
    {package : String} :
    package ∈ (dependencies files aliases externals).names ↔
      ∃ name ∈ externals, Resolution.isLocal aliases name = false ∧
        Resolution.packageName name = package := by
  unfold dependencies
  rw [Table.mem_names_ofList, List.map_map]
  simp [List.mem_map, List.mem_filter, and_assoc]

end Bundle

namespace BundleConfig

variable {c : BundleConfig} {files : FileSet} {entry : Option String} {a : BundleArtifact}
  {m name importer : String}

/-! ## Host packages in bundles -/

/-- What a file map leaves to the host does not look like a file. -/
theorem isLocal_eq_false_of_bundle (hs : c.strategy = .fileMap) (h : c.bundle files entry = .ok a)
    (hm : m ∈ a.modules) (hi : name ∈ c.importsOf files m)
    (ho : Resolution.of files c.aliases m name = .outside name) :
    Resolution.isLocal c.aliases name = false := by
  obtain ⟨start, reached, _, hr, rfl⟩ := exists_reached_of_bundle h
  obtain ⟨r, hmem, rfl⟩ := List.mem_map.mp hm
  have hv := hr.visited r hmem
  rw [visit, hs] at hv
  obtain ⟨f, names, hf, hnames, hclear, _⟩ := visitForFileMap_eq_ok_iff.mp hv
  have himports : c.importsOf files r.path = names := importsOf_eq hf (by rw [namesIn, hs]; exact hnames)
  exact hclear name (himports ▸ hi) (by rw [ho]; rfl)

/-- A file map asks for the packages of what it leaves to the host. -/
theorem versions_of_bundle {contents versions : Table String} (h : c.bundle files entry = .ok a)
    (hout : a.output = .fileMap contents versions) :
    c.strategy = .fileMap ∧ versions = dependencies files c.aliases a.externalized := by
  obtain ⟨start, reached, _, _, rfl⟩ := exists_reached_of_bundle h
  unfold artifactOf at hout
  cases hs : c.strategy with
  | script =>
      rw [hs] at hout
      cases hout
  | fileMap =>
      rw [hs] at hout
      exact ⟨rfl, (BundleOutput.fileMap.inj hout).2.symm⟩

/-- An import is found missing only in a file map, and only if it looks like a file. -/
theorem isLocal_of_unresolved (h : c.bundle files entry = .error (.unresolved importer name)) :
    c.strategy = .fileMap ∧ Resolution.isLocal c.aliases name = true := by
  rcases failure_of_bundle h with h | h | ⟨hs, _, _, h, hlocal⟩
  · cases h
  · cases h
  · cases h
    exact ⟨hs, hlocal⟩

/-- **Packages of the host are left to the host, and fail a bundle only where an alias covers them.** A
bundle with a module that imports one leaves it to the host, and a file map asks for its package. It is
found missing only in a file map, and only if an alias covers it; and then there is no file map with a module
that imports it. -/
theorem host_imports (c : BundleConfig) (files : FileSet) (entry : Option String)
    (hn : name ∈ Resolution.hostPackages) :
    (∀ importer, Resolution.of files c.aliases importer name = .outside name) ∧
    (∀ a, c.bundle files entry = .ok a → ∀ m ∈ a.modules, name ∈ c.importsOf files m →
      name ∈ a.externalized ∧
        ∀ contents versions, a.output = .fileMap contents versions →
          Resolution.packageName name ∈ versions.names) ∧
    (∀ importer, c.bundle files entry = .error (.unresolved importer name) →
      c.strategy = .fileMap ∧ Resolution.Covers c.aliases name) ∧
    (c.strategy = .fileMap → Resolution.Covers c.aliases name →
      ∀ start m, c.detectEntry files entry = .ok start →
        Relation.ReflTransGen (c.Leads files) start m → name ∈ c.importsOf files m →
        ∃ e, c.bundle files entry = .error e) := by
  have hleft (importer : String) : Resolution.of files c.aliases importer name = .outside name :=
    Resolution.of_hostPackages hn
  refine ⟨hleft, fun a h m hm hi => ?_, fun importer h => ?_, fun hs hcover start m hstart hreach hi => ?_⟩
  · have hexternal : name ∈ a.externalized :=
      ((closed_of_bundle h).mem_externalized_iff name).mpr ⟨m, hm, hi, hleft m⟩
    refine ⟨hexternal, fun contents versions hout => ?_⟩
    obtain ⟨hs, rfl⟩ := versions_of_bundle h hout
    exact mem_names_dependencies.mpr ⟨name, hexternal, isLocal_eq_false_of_bundle hs h hm hi (hleft m), rfl⟩
  · obtain ⟨hs, hlocal⟩ := isLocal_of_unresolved h
    exact ⟨hs, (Resolution.isLocal_iff_covers hn).mp hlocal⟩
  · cases hb : c.bundle files entry with
    | error e => exact ⟨e, rfl⟩
    | ok a =>
        -- the module would be one of the bundle
        have ha := closed_of_bundle hb
        obtain rfl : start = a.entryPoint := Except.ok.inj (hstart.symm.trans ha.start)
        have hclear := isLocal_eq_false_of_bundle hs hb ((ha.reachable_iff m).mpr hreach) hi (hleft m)
        rw [(Resolution.isLocal_iff_covers hn).mpr hcover] at hclear
        cases hclear

/-- A module that imports a part of a package of the host. -/
def hosted : FileSet :=
  .ofContents [("main.tsx", "import { createRoot } from 'react-dom/client';\ncreateRoot;\n")]

/-- The part is left to the host, and its package is asked for. -/
theorem host_imports_part :
    ∃ a versions, BundleConfig.bundle { strategy := .fileMap } hosted none = .ok a ∧
      a.modules = ["main.tsx"] ∧ "react-dom/client" ∈ a.externalized ∧
      (∃ contents, a.output = .fileMap contents versions) ∧ "react-dom" ∈ versions.names := by
  have hmade : (BundleConfig.bundle { strategy := .fileMap } hosted none).toOption.map
      (fun a => (a.modules, a.output)) = some (["main.tsx"],
        .fileMap hosted.contents [("react-dom", "latest")]) := by decide +kernel
  obtain ⟨a, ha, hpair⟩ := exists_ok_of_map hmade
  obtain ⟨hm, hout⟩ := Prod.mk.inj hpair
  have himport : "react-dom/client" ∈ importsOf { strategy := .fileMap } hosted "main.tsx" := by
    decide +kernel
  obtain ⟨_, hleft, _⟩ := host_imports { strategy := .fileMap } hosted none
    (show "react-dom/client" ∈ Resolution.hostPackages by decide)
  obtain ⟨hexternal, hversions⟩ := hleft a ha "main.tsx" (by rw [hm]; decide) himport
  exact ⟨a, _, ha, hm, hexternal, ⟨_, hout⟩, hversions _ _ hout⟩

/-- A file map with an alias that covers a package of the host. -/
def covering : BundleConfig := { strategy := .fileMap, aliases := [("react", "preact/compat")] }

/-- **A package of the host that an alias covers fails a file map**: it is left to the host, and is found
missing nevertheless. -/
theorem covered_host_import_unresolved :
    let files : FileSet := .ofContents [("main.tsx", "import React from 'react';\n")]
    "react" ∈ Resolution.hostPackages ∧
      Resolution.of files covering.aliases "main.tsx" "react" = .outside "react" ∧
      covering.bundle files none = .error (.unresolved "main.tsx" "react") := by
  intro files
  have hfailed : (match covering.bundle files none with
      | .error (.unresolved importer specifier) => some (importer, specifier)
      | _ => none) = some ("main.tsx", "react") := by decide +kernel
  refine ⟨by decide, by decide +kernel, ?_⟩
  split at hfailed
  · rename_i importer specifier hb
    obtain ⟨rfl, rfl⟩ := Prod.mk.inj (Option.some.inj hfailed)
    exact hb
  · cases hfailed

end BundleConfig

end AppMend
