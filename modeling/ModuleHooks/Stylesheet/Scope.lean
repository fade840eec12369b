import ModuleHooks.Path.Basic
/-!
# Scoped and plain stylesheets

The file name of a stylesheet decides whether its class names are scoped to the module
that imports it.
-/

namespace ModuleHooks

/-- **Whose class names a stylesheet defines.** -/
inductive Scope where
  /-- A global stylesheet, imported for its side effects. -/
  | plain
  /-- A CSS Module, imported for its class names. -/
  | scoped
  deriving DecidableEq, Repr

namespace Scope

/-- The ends of the file names of CSS Modules. -/
def moduleSuffixes : List Text := [".module.css", ".module.scss"]

/-- **The scope of a stylesheet**, read off its file name. -/
def ofPath (p : Path) : Scope :=
  let name := Text.lowerAscii ((Path.fileName? p).getD [])
  if moduleSuffixes.any (Text.endsWith name) then .scoped else .plain

/-- The name of a scope in answers. -/
def name : Scope → Text
  | .plain => "plain"
  | .scoped => "scoped"

/-- The name of a scope in messages. -/
def label : Scope → Text
  | .plain => "Plain"
  | .scoped => "Scoped"

end Scope

end ModuleHooks
