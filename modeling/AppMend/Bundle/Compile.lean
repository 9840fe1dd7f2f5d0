import AppMend.Bundle.Body

/-!
# Files as modules

Each file of a bundle is a module: scripts are brought to plain form and made the bodies of functions, a
style sheet is put into the page, data and texts are exported as values, and a picture as its path.
-/

namespace AppMend.Bundle

/-- The extensions of files that are exported as their paths. -/
def assetExtensions : List String := ["svg", "png", "jpg", "jpeg", "gif", "webp", "ico"]

/-- A module that exports one value. -/
private def valueBody (code : String) : ModuleBody := ⟨"exports.default = " ++ code ++ ";", []⟩

/-- The body of a file in a registry. -/
def compileFile (f : File) (resolve : String → Resolution) : Except BundleFailure ModuleBody :=
  match f.language with
  | .css => .ok ⟨"__injectStyle(" ++ Json.quote f.path ++ ", " ++ Json.quote f.content ++ ");", []⟩
  | .json =>
    match Json.read f.content.toList with
    | .ok v => .ok (valueBody v.text)
    | .error e => .error (.badJson f.path e)
  | _ =>
    if f.isCode then
      match Script.plainForm f.path f.content.toList with
      | .ok code => ModuleBody.ofCode f.path code resolve
      | .error fault => .error (.unreadable f.path fault)
    else if (Path.extension? f.path).any assetExtensions.contains then
      .ok (valueBody (Json.quote ("/" ++ f.path)))
    else .ok (valueBody (Json.quote f.content))

/-- What a file imports, without compiling it. -/
def importsOfFile (f : File) : Except BundleFailure (List String) :=
  if f.isCode then
    match Script.sources f.path f.content.toList with
    | .ok names => .ok names
    | .error fault => .error (.unreadable f.path fault)
  else .ok []

end AppMend.Bundle
