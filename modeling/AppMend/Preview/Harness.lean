import AppMend.Preview.Config
import AppMend.Text.Letter

/-!
# The page that runs an app

The page holds the libraries, a script that offers them to the app, the app itself as a script, and a
script that mounts what the app exports inside a boundary for errors. The text of the app cannot end
the element it stands in: each closing tag of a script in it gets a backslash.
-/

namespace AppMend.Preview

/-- Whether a text begins with what makes a `<` before it a closing tag of a script, in either case. -/
def closesScript (s : List Char) : Bool := Text.beginsInAnyCase "/script".toList s

/-- A text with a backslash after the `<` of each closing tag of a script. -/
def escapeClosing : List Char → List Char
  | [] => []
  | c :: s =>
    if c = '<' ∧ closesScript s then '<' :: '\\' :: escapeClosing s else c :: escapeClosing s

/-- The text of a script without closing tags of a script. -/
def escapeScript (code : String) : String := String.ofList (escapeClosing code.toList)

/-- What a character of a text is written as. -/
def escapeChar : Char → List Char
  | '&' => "&amp;".toList
  | '<' => "&lt;".toList
  | '>' => "&gt;".toList
  | '"' => "&quot;".toList
  | c => [c]

/-- A text as it stands between tags, or in an attribute. -/
def escapeText (s : String) : String := String.ofList (s.toList.flatMap escapeChar)

/-- The mark of the element that stands in for an app that failed. -/
def boundaryMarker : String := "data-preview-error-boundary"

/-- The expression that tells what a page shows. -/
def domProbe : String :=
  "(() => (\x7b text: document.body ? document.body.innerText : '', boundaryTripped: !!document.querySelector('[" ++
    boundaryMarker ++ "]') \x7d))()"

/-- The script that offers the libraries to the app. -/
def hostSetup : List String := [
  "window.__PREVIEW_EXTERNALS__ = (function () \x7b",
  "  var React = window.React;",
  "  var ReactDOM = window.ReactDOM;",
  "  function jsx(type, props, key) \x7b",
  "    return React.createElement(type, key === undefined ? props : Object.assign(\x7b\x7d, props, \x7b key: key \x7d));",
  "  \x7d",
  "  return \x7b",
  "    \"react\": React,",
  "    \"react-dom\": ReactDOM,",
  "    \"react-dom/client\": ReactDOM,",
  "    \"react/jsx-runtime\": \x7b jsx: jsx, jsxs: jsx, Fragment: React.Fragment \x7d",
  "  \x7d;",
  "\x7d)();"]

/-- The script that mounts the app. -/
def mountScript : List String := [
  "(function () \x7b",
  "  var React = window.React;",
  "  var ReactDOM = window.ReactDOM;",
  "  var entry = globalThis.__PREVIEW_ENTRY__;",
  "  var Component = entry && (entry.__esModule ? entry.default : (entry.default || entry));",
  "  var renderable = typeof Component === \"function\" ||",
  "    (Component !== null && typeof Component === \"object\" && Component.$$typeof !== undefined);",
  "  if (!renderable) return;",
  "  class PreviewErrorBoundary extends React.Component \x7b",
  "    constructor(props) \x7b",
  "      super(props);",
  "      this.state = \x7b error: null \x7d;",
  "    \x7d",
  "    static getDerivedStateFromError(error) \x7b",
  "      return \x7b error: error \x7d;",
  "    \x7d",
  "    componentDidCatch(error) \x7b",
  "      console.error(\"Preview render error: \" + (error && error.message ? error.message : String(error)));",
  "    \x7d",
  "    render() \x7b",
  "      if (this.state.error) \x7b",
  "        return React.createElement(",
  "          \"div\",",
  "          \x7b \"" ++ boundaryMarker ++ "\": \"true\", role: \"alert\" \x7d,",
  "          \"Render failed: \" + (this.state.error.message || String(this.state.error))",
  "        );",
  "      \x7d",
  "      return this.props.children;",
  "    \x7d",
  "  \x7d",
  "  ReactDOM.createRoot(document.getElementById(\"root\")).render(",
  "    React.createElement(PreviewErrorBoundary, null, React.createElement(Component))",
  "  );",
  "\x7d)();"]

/-- The page for the bundle of an app. -/
def harnessPage (c : PreviewConfig) (bundle entry : String) : String :=
  "\n".intercalate ([
    "<!DOCTYPE html>",
    "<html>",
    "<head>",
    "<meta charset=\"utf-8\">",
    "<title>Preview: " ++ escapeText entry ++ "</title>",
    "<script crossorigin src=\"" ++ escapeText c.reactUrl ++ "\"></script>",
    "<script crossorigin src=\"" ++ escapeText c.reactDomUrl ++ "\"></script>",
    "<script>"] ++ hostSetup ++ [
    "</script>",
    "</head>",
    "<body>",
    "<div id=\"root\"></div>",
    "<script>",
    escapeScript bundle,
    "</script>",
    "<script>"] ++ mountScript ++ [
    "</script>",
    "</body>",
    "</html>",
    ""])

end AppMend.Preview
