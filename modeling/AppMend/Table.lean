/-!
# Tables

A table pairs names with values, in ascending order of the names and each name once. A later entry for
a name replaces an earlier one.
-/

namespace AppMend

abbrev Table (α : Type) := List (String × α)

namespace Table

/-- Puts an entry in its place. -/
def insert (name : String) (v : α) : Table α → Table α
  | [] => [(name, v)]
  | (n, w) :: rest =>
    if name < n then (name, v) :: (n, w) :: rest
    else if name = n then (name, v) :: rest
    else (n, w) :: insert name v rest

/-- The table of a list of entries, of which the later ones win. -/
def ofList (entries : List (String × α)) : Table α := entries.foldl (fun t e => t.insert e.1 e.2) []

def get? (t : Table α) (name : String) : Option α := (t.find? (·.1 == name)).map (·.2)

def names (t : Table α) : List String := t.map (·.1)

end Table

/-- The texts of a list in ascending order, each once. -/
def sortedTexts (xs : List String) : List String := (Table.ofList (xs.map (·, ()))).names

end AppMend
