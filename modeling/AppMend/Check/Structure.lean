import AppMend.Check.Markup
import AppMend.Check.Scanners
import AppMend.Outline.Faulty

/-!
# Checks on the outline of a script

An analyzer that parses looks at the outline of a file. A file without a faulty place has no findings on
its structure. For a file with one the line scanners may tell what is wrong; if they do not, the first
faulty place is reported.

Issues in markup are read off the elements of the outline.
-/

namespace AppMend.Check

open Text

/-! ## Structure -/

/-- The message on a faulty place. -/
def faultMessage (place : Outline) : String :=
  match place.status with
  | .missing => s!"Missing `{place.text}`"
  | _ => s!"Unexpected syntax near `{String.ofList (trim (place.text.toList.take 40))}`"

def faultFinding (f : File) (place : Outline) : Finding where
  kind := .invalidJsx
  message := faultMessage place
  file := f.path
  line := some (lineAt f.content.toList place.start)

/-- The findings on the structure of a file with a given outline. -/
def structureFindings (f : File) (tree : Outline) : List Finding :=
  if tree.hasFault then
    match scannerFindings f with
    | [] => tree.firstFault?.toList.map (faultFinding f)
    | found => found
  else []

/-! ## Markup -/

def attributesOf (tag : Outline) : List Outline := tag.children.filter (·.kind == .attribute)

def hasAttribute (tag : Outline) (name : String) : Bool :=
  (attributesOf tag).any (·.text == name)

/-- The value of an attribute: what stands after its name. -/
private def valueOf? (attribute_ : Outline) : Option Outline := attribute_.children[1]?

/-- Whether a value is an object in braces. -/
private def isObjectValue (value : Outline) : Bool :=
  value.kind == .braces && (value.children.head?).any (·.kind == .object)

/-- The issues of an opening or a self-closing tag. -/
def tagIssues (s : List Char) (tag : Outline) : List MarkupIssue :=
  if tag.text == "" then []
  else
    let line := lineAt s tag.start
    let hasSpread := tag.children.any (·.kind == .braces)
    let isControl := tag.text == "button" || tag.text == "input"
    (if tag.text == "img" && !hasAttribute tag "alt" && !hasSpread then [.imageWithoutAlt line] else []) ++
      (if isControl && (hasAttribute tag "className" || hasAttribute tag "class") then
        [.rawControl tag.text line] else []) ++
      (attributesOf tag).filterMap fun a =>
        if a.text == "style" then
          (valueOf? a).bind fun v => if isObjectValue v then some (.inlineStyle (lineAt s v.start)) else none
        else none

/-- What an element holds, apart from its tags and from text that is blank. -/
private def contentOf (element : Outline) : List Outline :=
  element.children.filter fun c =>
    c.kind != .openTag && c.kind != .closeTag && !(c.kind == .text && c.text.toList.all isBlank)

/-- Whether an element is a button without a label around a single component. -/
def isBareIconButton (element : Outline) : Bool :=
  match element.children.head? with
  | none => false
  | some tag =>
    (tag.text == "button" || tag.text == "Button") && !hasAttribute tag "aria-label" &&
      match contentOf element with
      | [only] => only.kind == .selfClosingTag && (only.text.toList.head?).any Char.isUpper
      | _ => false

/-- The issues of one node of an outline. -/
def nodeIssues (s : List Char) (node : Outline) : List MarkupIssue :=
  match node.kind with
  | .openTag | .selfClosingTag => tagIssues s node
  | .element => if isBareIconButton node then [.iconButtonWithoutLabel (lineAt s node.start)] else []
  | _ => []

/-- The issues of an outline, in the order of its nodes. -/
def outlineIssues (s : List Char) (tree : Outline) : List MarkupIssue :=
  tree.preorder.flatMap (nodeIssues s)

end AppMend.Check
