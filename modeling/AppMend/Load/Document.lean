import AppMend.FileSet
import AppMend.Json.Printer
import AppMend.Json.Reader
import AppMend.Text.Quoted

/-!
# File sets as documents

A document gives a file set as contents by path, or as a list of entries. Either may stand alone or as
the only field of an object. An entry is an object of a path and a content, or a list that gives them in
this order; the language it may name is checked and then passed over, for a file takes the language of
its path.
-/

namespace AppMend

open Json (Value)

/-- Why an entry is no file. -/
inductive EntryFault where
  /-- Something else stands in place of what was expected. -/
  | otherKind (found : Value) (expected : String)
  | unknownLanguage (word : String)
  /-- An object names a language only as its one field. -/
  | notOneField
  | missingField (name : String)
  /-- A list with this many items ends too early. -/
  | tooShort (length : Nat)
  /-- A list with this many items goes on too long. -/
  | tooLong (length : Nat)

namespace EntryFault

/-- A name between marks. -/
def marked (s : String) : String :=
  let mark := (Char.ofNat 96).toString
  mark ++ s ++ mark

/-- What kind of value stands somewhere. -/
def kindText : Value → String
  | .null => "null"
  | .bool b => "boolean " ++ marked (if b then "true" else "false")
  | .num (.int i) => "integer " ++ marked (toString i)
  | .num (.float x) => "floating point " ++ marked (Json.Numeral.float x).text
  | .str s => "string " ++ Text.quoted s
  | .arr _ => "sequence"
  | .obj _ => "map"

def message : EntryFault → String
  | otherKind found expected => s!"invalid type: {kindText found}, expected {expected}"
  | unknownLanguage word =>
    s!"unknown variant {marked word}, expected one of " ++
      ", ".intercalate (Language.all.map fun l => marked l.name)
  | notOneField => "invalid value: map, expected map with a single key"
  | missingField name => "missing field " ++ marked name
  | tooShort n => s!"invalid length {n}, expected struct GeneratedFile with 3 elements"
  | tooLong n => s!"invalid length {n}, expected fewer elements in array"

end EntryFault

/-- Why a text or a document gives no file set. -/
inductive ShapeFault where
  | unreadable (e : Json.ReadError)
  | contentNotText (path : String)
  | badEntry (entry : Value) (why : EntryFault)
  | notFiles

def ShapeFault.message (f : ShapeFault) : String :=
  "unexpected file set shape: " ++
    match f with
    | .unreadable e => "not JSON: " ++ e.message
    | .contentNotText path => s!"content of {path} is not a string"
    | .badEntry entry why => s!"invalid file entry {entry.text}: {why.message}"
    | .notFiles => "expected a JSON object or array of files"

namespace Load

/-- The text that stands somewhere. -/
def textOf : Value → Except EntryFault String
  | .str s => .ok s
  | v => .error (.otherKind v "a string")

def languageNamed (word : String) : Except EntryFault Language :=
  match Language.ofName? word with
  | some l => .ok l
  | none => .error (.unknownLanguage word)

/-- The language that stands somewhere: a name, or an object with the name as its only field. -/
def languageOf : Value → Except EntryFault Language
  | .str word => languageNamed word
  | .obj [(word, v)] => do
    let l ← languageNamed word
    match v with
    | .null => pure l
    | v => .error (.otherKind v "unit")
  | .obj _ => .error .notOneField
  | v => .error (.otherKind v "string or map")

/-- What a field holds, if it is there; a fault of what it holds counts. -/
def fieldOf (v : Value) (name : String) (decode : Value → Except EntryFault α) :
    Except EntryFault (Option α) :=
  match v.field? name with
  | none => .ok none
  | some w => some <$> decode w

/-- The file of an entry that is a list. -/
def fileOfList : List Value → Except EntryFault File
  | [] => .error (.tooShort 0)
  | p :: vs => do
    let path ← textOf p
    match vs with
    | [] => .error (.tooShort 1)
    | c :: vs =>
      let content ← textOf c
      match vs with
      | [] => pure (.of path content)
      | l :: rest =>
        let _ ← languageOf l
        if rest.isEmpty then pure (.of path content) else .error (.tooLong (rest.length + 3))

/-- The file of an entry. Its fields are looked at in the order of their names. -/
def fileOfEntry (v : Value) : Except EntryFault File :=
  match v with
  | .arr items => fileOfList items
  | .obj _ => do
    let content? ← fieldOf v "content" textOf
    let _ ← fieldOf v "language" languageOf
    let path? ← fieldOf v "path" textOf
    match path?, content? with
    | none, _ => .error (.missingField "path")
    | some _, none => .error (.missingField "content")
    | some path, some content => pure (.of path content)
  | v => .error (.otherKind v "struct GeneratedFile")

/-- The file of a content by its path. -/
def fileOfContent (path : String) : Value → Except ShapeFault File
  | .str content => .ok (.of path content)
  | _ => .error (.contentNotText path)

/-- A document without the one field around it. -/
def unwrapped : Value → Value
  | .obj [("files", v)] => v
  | v => v

end Load

/-- The file set that a document gives. -/
def FileSet.ofDocument (v : Value) : Except ShapeFault FileSet :=
  match Load.unwrapped v with
  | .obj contents => .ofList <$> contents.mapM fun c => Load.fileOfContent c.1 c.2
  | .arr entries => .ofList <$> entries.mapM fun e => (Load.fileOfEntry e).mapError (.badEntry e)
  | _ => .error .notFiles

/-- The file set that a text writes as a document. -/
def FileSet.parse (s : String) : Except ShapeFault FileSet :=
  match Json.read s.toList with
  | .ok v => ofDocument v
  | .error e => .error (.unreadable e)

end AppMend
