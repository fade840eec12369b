import ModuleHooks.Config.Basic
import ModuleHooks.Text.Quoted
/-!
# Emitted modules

The JavaScript sources that imports of stylesheets and assets turn into. Every value
enters a source as a quoted literal, so nothing it holds can end the literal early.
-/

namespace ModuleHooks

/-- **A class map**: local names and the class names they stand for, sorted by key. -/
abbrev ClassMap := List (Text × Text)

namespace Emission

/-- The object literal of a class map. -/
def mapLiteral (map : ClassMap) : Text :=
  '{' :: Text.join "," (map.map fun e => Text.quote e.1 ++ ':' :: Text.quote e.2) ++ ['}']

/-- The declaration of a constant. -/
def constant (name value : Text) : Text :=
  ("const " : Text) ++ name ++ " = ".toList ++ value ++ ";\n".toList

/-- The declaration of a constant that looks a global up by name. -/
def globalLookup (binding name : Text) : Text :=
  constant binding
    (("typeof globalThis !== \"undefined\" ? globalThis[" : Text) ++ Text.quote name ++
      "] : undefined".toList)

/-- The statement that puts the CSS into the document, when there is one. -/
def injection : Text :=
  "if (typeof document !== \"undefined\") \x7b\n  const style = document.createElement(\"style\");\n  style.setAttribute(\"type\", \"text/css\");\n  style.appendChild(document.createTextNode(__CSS__));\n  document.head.appendChild(style);\n\x7d\n"

/-- The head of the statement that hands the CSS to a callback. -/
def scopedCallback : Text :=
  "\nif (typeof __ON_CSS__ === \"function\") \x7b\n  __ON_CSS__(__CSS__);\n\x7d else "

/-- The statement that hands the path and the CSS to a callback. -/
def plainCallback : Text :=
  "\nif (typeof __ON_CSS_IMPORTED__ === \"function\") __ON_CSS_IMPORTED__(__PATH__, __CSS__);\n"

/-- **The module of an asset.** -/
def assetModule (choice : AssetExport) (path : Text) : Text :=
  match choice with
  | .emptyObject => "export default \x7b\x7d;"
  | .path =>
    ("const __PATH__ = " : Text) ++ Text.quote path ++ "; export default __PATH__;".toList

/-- **The module of a scoped stylesheet.** The class map is the default export; the CSS
goes to the callback when that global exists, and into the document otherwise. -/
def scopedModule (css : Text) (classNames : ClassMap) (onCss : Option Text) : Text :=
  constant "__CSS__" (Text.quote css) ++ constant "__TOKENS__" (mapLiteral classNames) ++
    (match onCss with
      | some name => globalLookup "__ON_CSS__" name ++ scopedCallback
      | none => ['\n']) ++
    injection ++ "\nexport default __TOKENS__;\n".toList

/-- **The module of a plain stylesheet.** The path is the default export and goes, with
the CSS, to the callback when that global exists. -/
def plainModule (path css : Text) (onCssImported : Option Text) : Text :=
  constant "__PATH__" (Text.quote path) ++ constant "__CSS__" (Text.quote css) ++
    (match onCssImported with
      | some name => globalLookup "__ON_CSS_IMPORTED__" name ++ plainCallback
      | none => []) ++
    "\nexport default __PATH__;\n".toList

end Emission

end ModuleHooks
