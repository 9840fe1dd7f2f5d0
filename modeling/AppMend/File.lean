import AppMend.Path
import AppMend.Json.Value

/-!
# Files

A file of an app: its path, its content and its language. The language is read off the extension of
the path unless it was given. A repair never changes a file in place; it makes a new version of it.
-/

namespace AppMend

inductive Language where
  | tsx
  | typescript
  | jsx
  | javascript
  | css
  | json
  | html
  | markdown
  | other
deriving DecidableEq, Inhabited

namespace Language

def name : Language → String
  | tsx => "tsx"
  | typescript => "typescript"
  | jsx => "jsx"
  | javascript => "javascript"
  | css => "css"
  | json => "json"
  | html => "html"
  | markdown => "markdown"
  | other => "other"

/-- All languages in the order they are listed to a reader. -/
def all : List Language :=
  [tsx, typescript, jsx, javascript, css, json, html, markdown, other]

def ofName? (s : String) : Option Language := all.find? (·.name == s)

/-- The language that an extension stands for. -/
def ofExtension : String → Language
  | "tsx" => tsx
  | "ts" | "mts" | "cts" => typescript
  | "jsx" => jsx
  | "js" | "mjs" | "cjs" => javascript
  | "css" => css
  | "json" => json
  | "html" | "htm" => html
  | "md" | "mdx" => markdown
  | _ => other

/-- The language that the extension of a path stands for. -/
def ofPath (path : String) : Language :=
  match Path.extension? path with
  | some ext => ofExtension ext
  | none => other

end Language

/-- Extensions of the files that are checked. -/
def codeExtensions : List String := ["ts", "tsx", "js", "jsx", "mjs", "cjs"]

/-- Whether a path names a file that is checked. -/
def isCodePath (path : String) : Bool :=
  match Path.extension? path with
  | some ext => codeExtensions.contains ext
  | none => false

structure File where
  path : String
  content : String
  language : Language
deriving DecidableEq, Inhabited

namespace File

/-- A file of the canonical path, in the language of that path. -/
def of (path content : String) : File :=
  { path := Path.normalize path, content, language := .ofPath (Path.normalize path) }

/-- A version of the file with another content. -/
def withContent (f : File) (content : String) : File := { f with content }

def isCode (f : File) : Bool := isCodePath f.path

def name (f : File) : String := Path.name f.path

/-- The file as a set keeps it: under its canonical path, with a language if the path tells one. -/
def filed (f : File) : File :=
  let path := Path.normalize f.path
  { f with path, language := if f.language = .other then .ofPath path else f.language }

/-- A file that is as a set keeps it. -/
structure Filed (f : File) : Prop where
  path_eq : Path.normalize f.path = f.path
  language_eq : f.language = .other → Language.ofPath f.path = .other

theorem filed_filed (f : File) : f.filed.Filed where
  path_eq := by simp [filed]
  language_eq := by
    intro h
    simp only [filed] at h ⊢
    split at h
    · exact h
    · contradiction

theorem Filed.filed_eq {f : File} (h : f.Filed) : f.filed = f := by
  obtain ⟨path, content, language⟩ := f
  have hp := h.path_eq
  have hl := h.language_eq
  simp only at hp hl
  simp only [filed, hp, mk.injEq, true_and]
  split
  · rename_i he
    rw [hl he, he]
  · rfl

def toJson (f : File) : Json.Value :=
  .object [("path", f.path), ("content", f.content), ("language", f.language.name)]

end File

end AppMend
