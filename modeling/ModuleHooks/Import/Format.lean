import ModuleHooks.Text.Basic
/-!
# Formats of modules

Resolution attaches a format to a URL and loading acts on it. Two formats belong to
this library; the others are the host's.
-/

namespace ModuleHooks

/-- **The format of a module.** -/
inductive ModuleFormat where
  /-- An asset, loaded as a trivial module. -/
  | asset
  /-- A stylesheet, loaded through the compiler. -/
  | stylesheet
  /-- A module of the standard kind. -/
  | module
  /-- A module that assigns its exports. -/
  | commonJs
  /-- A data module. -/
  | json
  /-- A module of the host. -/
  | builtin
  /-- Any other format, by name. -/
  | other (name : Text)
  deriving DecidableEq, Repr

namespace ModuleFormat

/-- The name of a format. -/
def name : ModuleFormat → Text
  | .asset => "jopi-loader"
  | .stylesheet => "jopi-loader-css"
  | .module => "module"
  | .commonJs => "commonjs"
  | .json => "json"
  | .builtin => "builtin"
  | .other name => name

/-- The formats that have a name of their own. -/
def known : List ModuleFormat := [.asset, .stylesheet, .module, .commonJs, .json, .builtin]

/-- **The format of a name.** -/
def ofName (n : Text) : ModuleFormat := (known.find? fun f => f.name == n).getD (.other n)

/-- Whether the format is one that only this library attaches. -/
def isSynthetic : ModuleFormat → Bool
  | .asset => true
  | .stylesheet => true
  | _ => false

/-- Whether the format has no name of its own. -/
def isOther : ModuleFormat → Bool
  | .other _ => true
  | _ => false

end ModuleFormat

end ModuleHooks
