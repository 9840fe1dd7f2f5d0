/-!
# Settings documents

A settings document is a table: values by key. A table can be written piece by piece, so each one keeps
how it came about, because that decides who may still add to it. `Fields.modifyAt` follows a path of
keys and makes the tables that are missing; it fails where the path leads into something closed.
-/

namespace AppMend.Toml

/-- How a table came about. -/
inductive Origin where
  /-- On the way to a header. -/
  | implied
  /-- On the way to a dotted key. -/
  | dotted
  /-- By its header. -/
  | header
  /-- Between braces. -/
  | inline
deriving DecidableEq, Inhabited

/-- Numbers with a fraction are only told to be there. -/
inductive Value where
  | text (s : String)
  | int (n : Int)
  | float
  | bool (b : Bool)
  /-- A date, a time of the day, or both, as a text. -/
  | time (s : String)
  | list (items : List Value)
  | table (origin : Origin) (fields : List (String × Value))
  /-- Tables under one header, the last one first. -/
  | rows (tables : List (List (String × Value)))
deriving Inhabited

abbrev Fields := List (String × Value)

namespace Fields

def get? (fs : Fields) (key : String) : Option Value := (fs.find? (·.1 == key)).map (·.2)

/-- Puts a value in place of the one of its key, or at the end. -/
def put (key : String) (v : Value) : Fields → Fields
  | [] => [(key, v)]
  | (k, w) :: fs => if k = key then (key, v) :: fs else (k, w) :: put key v fs

/-- Adds a value under a key that is not taken. -/
def add? (fs : Fields) (key : String) (v : Value) : Option Fields :=
  if (fs.get? key).isSome then none else some (fs.put key v)

/-- What a path of keys leads through: headers, keys with dots, or keys with dots between braces. -/
inductive Way where
  | headers
  | dots
  | braces
deriving DecidableEq

/-- The table to make for a key that is missing. -/
def Way.origin : Way → Origin
  | headers => .implied
  | dots | braces => .dotted

/-- Whether a way may lead into a table. -/
def Way.enters : Way → Origin → Bool
  | headers, o => o != .inline
  | dots, o => o == .implied || o == .dotted
  | braces, o => o == .dotted

/-- Changes the table at the end of a path. -/
def modifyAt (way : Way) (f : Origin → Fields → Option Fields) :
    List String → Origin → Fields → Option Fields
  | [], origin, fs => f origin fs
  | k :: ks, _, fs =>
    match fs.get? k with
    | none => do
      let sub ← modifyAt way f ks way.origin []
      pure (fs.put k (.table way.origin sub))
    | some (.rows (row :: rows)) =>
      if way = .braces then none
      else do
        let sub ← modifyAt way f ks .header row
        pure (fs.put k (.rows (sub :: rows)))
    | some (.table origin row) =>
      if way.enters origin then do
        let sub ← modifyAt way f ks origin row
        pure (fs.put k (.table origin sub))
      else none
    | some _ => none

/-- Sets a value by a dotted key. The tables on the way must be open to it, and a table that a header
leads through is not. -/
def assign? (way : Way) (keys : List String) (v : Value) (fs : Fields) : Option Fields :=
  match keys.getLast? with
  | none => none
  | some key =>
    modifyAt way (fun origin fs =>
      if (origin == .dotted) == keys.dropLast.isEmpty then none else fs.add? key v)
      keys.dropLast .header fs

/-- Opens a table by its header. -/
def openTable? (path : List String) (fs : Fields) : Option Fields :=
  match path.getLast? with
  | none => none
  | some key =>
    modifyAt .headers (fun _ fs =>
      match fs.get? key with
      | none => some (fs.put key (.table .header []))
      | some (.table .implied sub) => some (fs.put key (.table .header sub))
      | some _ => none) path.dropLast .header fs

/-- Adds a table under its header. -/
def openRow? (path : List String) (fs : Fields) : Option Fields :=
  match path.getLast? with
  | none => none
  | some key =>
    modifyAt .headers (fun _ fs =>
      match fs.get? key with
      | none => some (fs.put key (.rows [[]]))
      | some (.rows rows) => some (fs.put key (.rows ([] :: rows)))
      | some _ => none) path.dropLast .header fs

/-- Sets a value by a dotted key, seen from the table that a header opened. -/
def assignWithin? (path keys : List String) (v : Value) (fs : Fields) : Option Fields :=
  modifyAt .headers (fun _ fs => assign? .dots keys v fs) path .header fs

end Fields

end AppMend.Toml
