import AppMend.Bundle.Basic

/-!
# Discovery of modules

From the entry on, each module is read once and what it imports is queued, the first found first. What
reads a module is a parameter: it may fail, and then the whole discovery does.
-/

namespace AppMend.Bundle

/-- A module that was reached: its path, what reading it gave, and what its imports stand for. -/
structure Reached (α : Type) where
  path : String
  result : α
  imports : List Resolution

/-- The paths among some imports that were not seen, each once, in order. -/
def unseen (seen : List String) : List Resolution → List String
  | [] => []
  | .inside path :: rest =>
    if seen.contains path then unseen seen rest else path :: unseen (path :: seen) rest
  | .outside _ :: rest => unseen seen rest

/-- Reads the queued modules and those they lead to. Every module is queued when it is first seen, so
no more rounds are needed than there are files. -/
def discover (visit : String → Except ε (α × List Resolution)) :
    Nat → (queue seen : List String) → Except ε (List (Reached α))
  | 0, _, _ => .ok []
  | _ + 1, [], _ => .ok []
  | fuel + 1, path :: queue, seen => do
    let (result, imports) ← visit path
    let fresh := unseen seen imports
    let rest ← discover visit fuel (queue ++ fresh) (seen ++ fresh)
    pure (⟨path, result, imports⟩ :: rest)

/-- What is left to the host by the modules reached, in ascending order. -/
def externalsOf (reached : List (Reached α)) : List String :=
  sortedTexts (reached.flatMap fun m => m.imports.filterMap Resolution.outside?)

end AppMend.Bundle
