import AppMend.Check.Markup

/-!
# Conventions of the text

Checks that need no elements: unfinished work, markup in a file of the wrong type, helpers used and not
imported, the design system imported by a relative path, forms without a schema, styles in code, and
two warnings. `textFindings` lists them in this order.
-/

namespace AppMend.Check

open Text

/-- Whether a marker is in capitals: it has a letter, and none in lower case. -/
def isCapitalMarker (marker : List Char) : Bool :=
  marker.any isLetter && marker.all fun c => !isLowercase c

/-- Whether a line shows a marker of unfinished work. -/
def showsMarker (line marker : List Char) : Bool :=
  if marker.isEmpty then false
  else if isCapitalMarker marker then hasWord marker line
  else Text.occursIn (lower marker) (lower line)

/-- The findings on unfinished work: one for a line, for the first marker it shows. -/
def placeholderFindings (f : File) (rules : Rules) : List Finding :=
  (lines f.content.toList).zipIdx 1 |>.filterMap fun (line, n) =>
    (rules.placeholderMarkers.find? fun m => showsMarker line m.toList).map fun m =>
      { kind := .placeholder, message := s!"Placeholder content ({m}) left in generated code",
        file := f.path, line := some n }

/-- Whether a helper is called, and not as a member of something. -/
def callsUtility (s : List Char) (name : String) : Bool :=
  (occurrences (name ++ "(").toList s).any fun o =>
    !endsInName o.before && o.before.getLast? != some '.'

/-- Whether the text itself defines a name. -/
def definesName (s : List Char) (name : String) : Bool :=
  ["function ", "const ", "let ", "var "].any fun keyword => hasWord (keyword ++ name).toList s

/-- What is left of a module after any `@/` at its start. -/
private def dropAlias : List Char → List Char
  | '@' :: '/' :: s => dropAlias s
  | s => s

/-- Whether a file is the module of that name itself. -/
def isModuleFile (path module : String) : Bool :=
  let stem := match Path.cutLast? '.' path.toList with
    | some (stem, _) => stem
    | none => path.toList
  let tail := dropAlias module.toList
  stem == tail || stem == "src/".toList ++ tail || ('/' :: tail).isSuffixOf stem

/-- The finding on a helper that is used and comes from nowhere. -/
def utilityFinding? (f : File) (imports : List Import) (u : SharedUtility) : Option Finding :=
  let s := f.content.toList
  if callsUtility s u.name && !(imports.any fun i => hasWord u.name.toList i.bindings) &&
      !definesName s u.name && !isModuleFile f.path u.module then
    some
      { kind := .missingImport, file := f.path
        message := "`" ++ u.name ++ "` is used but not imported; add `import \x7b " ++ u.name ++
          " \x7d from \"" ++ u.module ++ "\"`" }
  else none

/-- The finding on an import that reaches the design system by a relative path. -/
def relativeImportFinding? (f : File) (rules : Rules) (i : Import) : Option Finding :=
  if i.source.head? == some '.' && Text.occursIn rules.designSystemDir.toList i.source then
    some
      { kind := .quality, file := f.path
        message := s!"Relative import '{String.ofList i.source}' into the design system; use the {rules.designSystemAlias}/... alias" }
  else none

section Patterns
open Pattern

private def asciiLetter : Pattern := one Char.isAlpha

/-- The name of a tag. -/
private def tagName : Pattern := all [asciiLetter, many (one fun c => isWord c || c == '.')]

/-- Something that only markup has: a closing tag, a self-closing one, or one that is returned. -/
def markup : Pattern := any [
  all [word "</", tagName, blanks, word ">"],
  all [word "<", tagName, opt (all [one isBlank, many (noneOf "<>")]), word "/>"],
  all [word "return", blanks, word "(", blanks, word "<"]]

def componentReturn : Pattern := all [
  word "return", blanks, opt (word "("), blanks, word "<", one fun c => c.isAlpha || c == '>']

private def callsUseForm : Pattern := all [
  wordEdge, word "useForm", blanks, opt (all [word "<", many (noneOf ">"), word ">"]), blanks,
  word "("]

private def formUsage : Pattern := any [all [word "<form", wordEdge], callsUseForm]

private def tick : Pattern := one (· == Char.ofNat 96)

private def cssInCode : Pattern := any [
  all [wordEdge, word "styled.", some1 (one isWord), blanks, tick],
  all [wordEdge, word "styled("],
  all [wordEdge, word "css", blanks, tick],
  all [word "from", blanks, oneOf "'\"",
    any [word "styled-components",
      all [word "@emotion/", some1 (one fun c => isWord c || c == '-')]],
    oneOf "'\""]]

private def consoleLogCall : Pattern := all [wordEdge, word "console.log", blanks, word "("]

private def anyTypeUse : Pattern := any [
  all [word ":", blanks, word "any", wordEdge],
  all [wordEdge, word "as", some1 (one isBlank), word "any", wordEdge],
  word "<any>",
  all [wordEdge, word "any[]"]]

end Patterns

/-- The finding on markup in a file whose type has none. -/
def fileTypeFinding? (f : File) : Option Finding :=
  let s := f.content.toList
  match f.language with
  | .typescript =>
    if ".d.ts".toList.isSuffixOf f.path.toList then none
    else (markup.find? s).map fun m =>
      { kind := .invalidJsx, message := "JSX in a .ts file; rename it to .tsx", file := f.path,
        line := some (lineAt s m.start) }
  | .javascript =>
    (componentReturn.find? s).map fun m =>
      { kind := .invalidJsx, message := "Component returns JSX outside a .tsx/.jsx file",
        file := f.path, line := some (lineAt s m.start) }
  | _ => none

/-- The findings on a form: it has no schema, or its hook is not given one. -/
def formFindings (f : File) (rules : Rules) (imports : List Import) : List Finding :=
  let s := f.content.toList
  match formUsage.find? s with
  | none => []
  | some m =>
    let line := lineAt s m.start
    let library := rules.schemaLibrary.toList
    let hasSchema := imports.any fun i => i.source == library || (library ++ ['/']).isPrefixOf i.source
    (if hasSchema then []
      else [{ kind := .validation, message := s!"Form without {rules.schemaLibrary} schema validation",
              file := f.path, line := some line }]) ++
    (if callsUseForm.occursIn s && !hasWord rules.schemaResolver.toList s then
      [{ kind := .validation, file := f.path, line := some line
         message := s!"useForm is not wired to a schema via {rules.schemaResolver}" }]
      else [])

private def stylingFindings (f : File) : List Finding :=
  let s := f.content.toList
  match cssInCode.find? s with
  | some m =>
    [{ kind := .styling, message := "CSS-in-JS styling; use utility classes instead", file := f.path,
       line := some (lineAt s m.start) }]
  | none => []

private def consoleFindings (f : File) : List Finding :=
  match (consoleLogCall.findAll f.content.toList).length with
  | 0 => []
  | n => [{ kind := .consoleLog, message := s!"{n} console.log call(s) left in code", file := f.path }]

private def anyFindings (f : File) : List Finding :=
  match (anyTypeUse.findAll f.content.toList).length with
  | 0 => []
  | n => [{ kind := .anyType, message := s!"{n} usage(s) of the `any` type", file := f.path }]

/-- What the text of a file shows against the conventions. -/
def textFindings (f : File) (rules : Rules) : List Finding :=
  let imports := importsOf f.content.toList
  placeholderFindings f rules ++ (fileTypeFinding? f).toList ++
    rules.sharedUtilities.filterMap (utilityFinding? f imports) ++
    imports.filterMap (relativeImportFinding? f rules) ++ formFindings f rules imports ++
    stylingFindings f ++ consoleFindings f ++ anyFindings f

/-! ## Which of them are of a kind about structure -/

section Kinds

variable {f : File} {rules : Rules} {imports : List Import} {x : Finding}

theorem isSyntax_placeholder (h : x ∈ placeholderFindings f rules) : x.kind.isSyntax = false := by
  obtain ⟨line, _, hline⟩ := List.mem_filterMap.mp h
  obtain ⟨m, _, rfl⟩ := Option.map_eq_some_iff.mp hline
  rfl

theorem isSyntax_utility {u : SharedUtility} (h : utilityFinding? f imports u = some x) :
    x.kind.isSyntax = false := by
  unfold utilityFinding? at h
  dsimp only at h
  split at h
  · cases h
    rfl
  · cases h

theorem isSyntax_relativeImport {i : Import} (h : relativeImportFinding? f rules i = some x) :
    x.kind.isSyntax = false := by
  unfold relativeImportFinding? at h
  split at h
  · cases h
    rfl
  · cases h

theorem isSyntax_form (h : x ∈ formFindings f rules imports) : x.kind.isSyntax = false := by
  unfold formFindings at h
  dsimp only at h
  split at h
  · cases h
  rcases List.mem_append.mp h with h | h
  · split at h
    · cases h
    · rw [List.mem_singleton.mp h]
      rfl
  · split at h
    · rw [List.mem_singleton.mp h]
      rfl
    · cases h

theorem isSyntax_style (h : x ∈ stylingFindings f) : x.kind.isSyntax = false := by
  unfold stylingFindings at h
  dsimp only at h
  split at h
  · rw [List.mem_singleton.mp h]
    rfl
  · cases h

theorem isSyntax_warning (h : x ∈ consoleFindings f ++ anyFindings f) : x.kind.isSyntax = false := by
  unfold consoleFindings anyFindings at h
  rcases List.mem_append.mp h with h | h <;> split at h
  · cases h
  · rw [List.mem_singleton.mp h]
    rfl
  · cases h
  · rw [List.mem_singleton.mp h]
    rfl

/-- Markup in a file whose type has none is reported like a fault of the structure. -/
theorem kind_of_fileTypeFinding (h : fileTypeFinding? f = some x) :
    x.kind = .invalidJsx ∧ x.autoFixed = false := by
  unfold fileTypeFinding? at h
  dsimp only at h
  split at h
  · split at h
    · cases h
    · obtain ⟨m, _, rfl⟩ := Option.map_eq_some_iff.mp h
      exact ⟨rfl, rfl⟩
  · obtain ⟨m, _, rfl⟩ := Option.map_eq_some_iff.mp h
    exact ⟨rfl, rfl⟩
  · cases h

/-- No other finding on the text is of a kind about structure. -/
theorem filter_textFindings (f : File) (rules : Rules) :
    (textFindings f rules).filter (·.kind.isSyntax) = (fileTypeFinding? f).toList := by
  have none_of {xs : List Finding} (h : ∀ x ∈ xs, x.kind.isSyntax = false) :
      xs.filter (·.kind.isSyntax) = [] :=
    List.filter_eq_nil_iff.mpr fun x hx => by simp [h x hx]
  have hmarkup : (fileTypeFinding? f).toList.filter (·.kind.isSyntax) = (fileTypeFinding? f).toList := by
    refine List.filter_eq_self.mpr fun x hx => ?_
    rw [(kind_of_fileTypeFinding (Option.mem_toList.mp hx)).1]
    rfl
  have hutilities (imports : List Import) :
      (rules.sharedUtilities.filterMap (utilityFinding? f imports)).filter (·.kind.isSyntax) = [] := by
    refine none_of fun x hx => ?_
    obtain ⟨u, _, hu⟩ := List.mem_filterMap.mp hx
    exact isSyntax_utility hu
  have hrelative (imports : List Import) :
      (imports.filterMap (relativeImportFinding? f rules)).filter (·.kind.isSyntax) = [] := by
    refine none_of fun x hx => ?_
    obtain ⟨i, _, hi⟩ := List.mem_filterMap.mp hx
    exact isSyntax_relativeImport hi
  have hwarnings := none_of fun x => isSyntax_warning (f := f) (x := x)
  unfold textFindings
  dsimp only
  rw [List.append_assoc _ (consoleFindings f)]
  simp only [List.filter_append] at hwarnings ⊢
  rw [none_of fun x => isSyntax_placeholder, hmarkup, hutilities, hrelative,
    none_of fun x => isSyntax_form, none_of fun x => isSyntax_style, hwarnings]
  simp

end Kinds

end AppMend.Check
