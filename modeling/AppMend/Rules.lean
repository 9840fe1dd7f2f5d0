import AppMend.Json.Value

/-!
# Project conventions

What a project demands of its files beyond sound syntax: which words mark unfinished work, which
helpers must be imported from where, how the design system is reached, and what validates a form.
-/

namespace AppMend

/-- A helper that must be imported from its module where it is used. -/
structure SharedUtility where
  name : String
  module : String
deriving DecidableEq, Inhabited

structure Rules where
  /-- A marker in capitals counts as a whole word; any other counts anywhere, in either case. -/
  placeholderMarkers : List String := ["TODO", "FIXME", "HACK", "not implemented", "coming soon"]
  sharedUtilities : List SharedUtility := [⟨"cn", "@/lib/utils"⟩]
  /-- The directory of the design system as it occurs in paths. -/
  designSystemDir : String := "components/ui"
  /-- The alias by which the design system is to be imported. -/
  designSystemAlias : String := "@/components/ui"
  schemaLibrary : String := "zod"
  schemaResolver : String := "zodResolver"
deriving DecidableEq, Inhabited

end AppMend
