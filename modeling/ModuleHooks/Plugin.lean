import ModuleHooks.Stylesheet.Compiler
/-!
# The plugin

Hosts without resolution hooks offer to hand over the files whose paths match a filter.
The plugin takes the stylesheets and gives back the modules they compile to.
-/

namespace ModuleHooks.Plugin

/-- The name under which the plugin registers. -/
def name : Text := "jopi-loader"

/-- The filter, as hosts write it. -/
def filter : Text := "\\.(css|scss)$"

/-- **Whether the plugin takes a path**: it ends in one of the two extensions, in lower
case. -/
def takes (path : Text) : Bool := [".css".toList, ".scss".toList].any (Text.endsWith path)

/-- How a host is to read what the plugin gives back. -/
def contentKind : Text := "js"

/-- **Loads a file that the host handed over.** -/
def load (c : Config) (draws : Sass.Draws) (fs : FileSystem) (path : Path) :
    Logged (Except LoaderError Text) :=
  .noted (.intercepted path) (Stylesheet.compileModule c draws fs path)

end ModuleHooks.Plugin
