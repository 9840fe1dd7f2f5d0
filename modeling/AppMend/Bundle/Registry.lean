import AppMend.Json.Printer

/-!
# The registry of a bundle

A bundle in one script is a registry of modules by path, each a function of its exports that runs when
it is first asked for. The script runs the entry and publishes its exports.
-/

namespace AppMend.Bundle

/-- The lines before the modules. -/
def registryHead : List String := [
  "(function () \x7b",
  "  \"use strict\";",
  "  var __hostExternals = globalThis.__PREVIEW_EXTERNALS__ || \x7b\x7d;",
  "  var __cache = \x7b\x7d;",
  "  var __hasOwn = Object.prototype.hasOwnProperty;",
  "  function __external(name) \x7b",
  "    if (__hasOwn.call(__hostExternals, name)) return __hostExternals[name];",
  "    throw new Error(\"Cannot find module '\" + name + \"': not provided by the preview host\");",
  "  \x7d",
  "  function __require(id) \x7b",
  "    var cached = __cache[id];",
  "    if (cached) return cached.exports;",
  "    var factory = __definitions[id];",
  "    if (!factory) throw new Error(\"Cannot find module '\" + id + \"'\");",
  "    var module = \x7b exports: \x7b\x7d \x7d;",
  "    Object.defineProperty(module.exports, \"__esModule\", \x7b value: true \x7d);",
  "    __cache[id] = module;",
  "    factory(module.exports);",
  "    return module.exports;",
  "  \x7d",
  "  function __default(m) \x7b",
  "    if (m && m.__esModule) return m.default;",
  "    return m && m.default !== undefined ? m.default : m;",
  "  \x7d",
  "  function __export(target, getters) \x7b",
  "    for (var key in getters) \x7b",
  "      Object.defineProperty(target, key, \x7b enumerable: true, get: getters[key] \x7d);",
  "    \x7d",
  "  \x7d",
  "  function __exportStar(target, source) \x7b",
  "    Object.keys(source).forEach(function (key) \x7b",
  "      if (key === \"default\" || __hasOwn.call(target, key)) return;",
  "      Object.defineProperty(target, key, \x7b",
  "        enumerable: true,",
  "        get: function () \x7b return source[key]; \x7d",
  "      \x7d);",
  "    \x7d);",
  "  \x7d",
  "  function __injectStyle(id, css) \x7b",
  "    if (typeof document === \"undefined\") return;",
  "    var style = document.createElement(\"style\");",
  "    style.setAttribute(\"data-preview-module\", id);",
  "    style.textContent = css;",
  "    document.head.appendChild(style);",
  "  \x7d",
  "  var __definitions = \x7b"]

/-- The definition of a module; a body always ends its line. -/
def definitionCode (path body : String) : String :=
  "    " ++ Json.quote path ++ ": function (exports) \x7b\n" ++ body ++
    (if body.endsWith "\n" then "" else "\n") ++ "    \x7d"

/-- The script of a registry that runs an entry. -/
def registryScript (entry : String) (modules : List (String × String)) : String :=
  String.join (registryHead.map (· ++ "\n")) ++
    ",\n".intercalate (modules.map fun (path, body) => definitionCode path body) ++
    (if modules.isEmpty then "" else "\n") ++
    "  \x7d;\n  globalThis.__PREVIEW_ENTRY__ = __require(" ++ Json.quote entry ++ ");\n\x7d)();\n"

end AppMend.Bundle
