import AppMend.Finding
import AppMend.Rules
import AppMend.Text.Lines
import AppMend.Text.Pattern
import AppMend.Text.Search

/-!
# Issues in markup

Four things may be wrong with an element: an image has no alternative text, a button shows an icon and
has no label, a style is given inline, or a raw control carries classes of its own. An analyzer locates
them; here they become findings. A raw control is excused in a file that imports the design system's
component of its name.

The second half locates the issues by patterns over the text, for an analyzer that does not parse.

What a file imports is read without parsing it: the bindings between `import` and `from`, and the source in
quotation marks.
-/

namespace AppMend.Check

/-! ## Import statements by pattern -/

open Text Pattern

/-- The text between `import` and `from`, and the source. -/
structure Import where
  bindings : List Char
  source : List Char
deriving DecidableEq

private def someBlanks : Pattern := some1 (one isBlank)

def importFrom : Pattern := all [
  wordEdge, word "import", someBlanks, opt (all [word "type", someBlanks]),
  group 1 (few (noneOf ";'\"")), blanks, word "from", blanks,
  oneOf "'\"", group 2 (some1 (noneOf "'\"")), oneOf "'\""]

/-- The imports of a text that have a `from`. -/
def importsOf (s : List Char) : List Import :=
  (importFrom.findAll s).map fun m => ⟨m.group s 1, m.group s 2⟩

open Text

/-- Something wrong with an element, and the line it shows on. -/
inductive MarkupIssue where
  | imageWithoutAlt (line : Nat)
  | iconButtonWithoutLabel (line : Nat)
  | inlineStyle (line : Nat)
  | rawControl (tag : String) (line : Nat)
deriving DecidableEq

/-- The message of a raw control's finding. -/
def rawControlMessage (rules : Rules) (tag : String) : String :=
  s!"Raw <{tag}> with custom classes; use the design-system component from {rules.designSystemAlias}/{tag}"

/-- Whether a file imports the design system's component of a name. -/
def importsComponent (rules : Rules) (imports : List Import) (tag : String) : Bool :=
  imports.any fun i =>
    (rules.designSystemDir ++ "/" ++ tag).toList.isSuffixOf (i.source.map Char.toLower)

/-- The finding of an issue in a file with the given imports; an excused control has none. -/
def MarkupIssue.finding? (path : String) (rules : Rules) (imports : List Import) :
    MarkupIssue → Option Finding
  | imageWithoutAlt line =>
    some { kind := .accessibility, message := "<img> is missing an alt attribute", file := path, line }
  | iconButtonWithoutLabel line =>
    some
      { kind := .accessibility, message := "Icon-only button needs an aria-label", file := path, line }
  | inlineStyle line =>
    some
      { kind := .styling, message := "Inline style object; use utility classes instead", file := path,
        line }
  | rawControl tag line =>
    if importsComponent rules imports tag then none
    else some { kind := .quality, message := rawControlMessage rules tag, file := path, line }

/-- The findings of the issues located in a file. -/
def markupFindings (f : File) (rules : Rules) (issues : List MarkupIssue) : List Finding :=
  issues.filterMap fun i => i.finding? f.path rules (importsOf f.content.toList)

/-! ## Issues located by patterns -/

open Pattern

/-- The rest of a tag up to its end. -/
def restOfTag : Pattern := many (noneOf ">")

def imageTag : Pattern := all [word "<img", wordEdge, restOfTag, word ">"]

private def buttonName : Pattern := any [word "button", word "Button"]

/-- A button around one self-closing component; its attributes are the first group. -/
private def iconOnlyButton : Pattern := all [
  word "<", buttonName, wordEdge, group 1 restOfTag, word ">", blanks,
  word "<", one Char.isUpper, many (one fun c => isWord c || c == '.'), wordEdge, restOfTag,
  word "/>", blanks, word "</", buttonName, word ">"]

private def inlineStyleObject : Pattern := all [wordEdge, word "style=\x7b\x7b"]

/-- A raw control; its name and its attributes are the groups. -/
def rawControlTag : Pattern := all [
  word "<", group 1 (any [word "button", word "input"]), wordEdge, group 2 restOfTag, word ">"]

private def has (p : String) (s : List Char) : Bool := Text.occursIn p.toList s

/-- The issues of a text, each kind in the order of its places. -/
def patternIssues (s : List Char) : List MarkupIssue :=
  ((imageTag.findAll s).filter fun m => !has "alt=" (m.text s)).map
      (fun m => .imageWithoutAlt (lineAt s m.start)) ++
    ((iconOnlyButton.findAll s).filter fun m => !has "aria-label" (m.group s 1)).map
      (fun m => .iconButtonWithoutLabel (lineAt s m.start)) ++
    (inlineStyleObject.findAll s).map (fun m => .inlineStyle (lineAt s m.start)) ++
    ((rawControlTag.findAll s).filter fun m =>
        has "className=" (m.group s 2) || has "class=" (m.group s 2)).map
      fun m => .rawControl (String.ofList (m.group s 1)) (lineAt s m.start)

end AppMend.Check
