import ModuleHooks.Text.Basic
/-!
# What an import names, by its extension

An import specifier is sorted by the extension of its last segment: stylesheets are
compiled, assets become trivial modules, and everything else is left to the host. The
sorting looks at the text alone, never at the disk.
-/

namespace ModuleHooks

/-- **How an import is handled.** -/
inductive ExtensionClass where
  /-- Left to the host's own resolution. -/
  | notIntercepted
  /-- An image, a font or a text. -/
  | genericAsset
  /-- A stylesheet to be compiled. -/
  | stylesheet
  deriving DecidableEq, Repr

namespace ExtensionClass

/-- Extensions of stylesheets. -/
def stylesheetExtensions : List Text := [".css", ".scss"]

/-- Extensions of assets. -/
def assetExtensions : List Text :=
  [".jpg", ".png", ".jpeg", ".gif", ".svg", ".webp", ".avif", ".ico", ".woff", ".woff2",
    ".ttf", ".txt"]

/-- Whether resolution answers imports of this class itself. -/
def isIntercepted : ExtensionClass → Bool
  | .notIntercepted => false
  | _ => true

/-- The class of an extension in lower case, dot included. -/
def ofExtension (extension : Text) : ExtensionClass :=
  if stylesheetExtensions.contains extension then .stylesheet
  else if assetExtensions.contains extension then .genericAsset
  else .notIntercepted

end ExtensionClass

namespace Specifier

/-- Whether a character ends a segment of a specifier. Both slashes do. -/
def isSlash (c : Char) : Bool := c == '/' || c == '\\'

/-- What follows the last slash of either kind. -/
def lastSegment (specifier : Text) : Text :=
  ((Text.splitBy isSlash specifier).getLast?).getD []

/-- **The extension of a specifier**: of its last segment, from the last dot on, in
lower case. A dot at the front of the segment does not begin an extension. -/
def extension (specifier : Text) : Text :=
  match Text.splitLast? '.' (lastSegment specifier) with
  | none => []
  | some ([], _) => []
  | some (_, after) => Text.lowerAscii ('.' :: after)

/-- **The class of a specifier.** -/
def classify (specifier : Text) : ExtensionClass :=
  ExtensionClass.ofExtension (extension specifier)

end Specifier

end ModuleHooks
