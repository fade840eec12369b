import ModuleHooks.Config.Setting
import ModuleHooks.FileSystem.Basic
import ModuleHooks.Url.Basic
/-!
# Failures

Why an import cannot be resolved, and why a module cannot be loaded. Each failure is a
cause; its wording is one function.
-/

namespace ModuleHooks

/-- Where failures are told in other terms, the results stay as they are. -/
theorem mapError_eq_ok_iff {ε δ α : Type} {f : ε → δ} {x : Except ε α} {a : α} :
    x.mapError f = .ok a ↔ x = .ok a := by
  cases x with
  | error why => exact iff_of_false (fun h => by cases h) fun h => by cases h
  | ok b =>
    constructor
    · intro h
      cases h
      rfl
    · intro h
      cases h
      rfl

/-- **Why resolution fails.** The two failures that carry a URL are those from which a
second attempt can start. -/
inductive ResolveError where
  /-- The specifier leads to a directory. -/
  | directoryImport (specifier : Text) (url : Url)
  /-- Nothing stands where the specifier leads, or no package has its name. -/
  | moduleNotFound (specifier : Text) (url : Option Url)
  /-- The scheme of the host's modules with a name none of them has. -/
  | unknownBuiltin (specifier : Text)
  /-- A relative specifier that makes no URL. -/
  | invalidSpecifier (specifier : Text) (why : UrlError)
  /-- A URL that leads to no file. -/
  | notAFile (url : Url)
  /-- A path that has no URL. -/
  | invalidPath (path : Path)
  /-- A failure of some other host, in its own words. -/
  | other (message : Text)
  deriving DecidableEq, Repr

/-- The wording of a failure to resolve. -/
def ResolveError.message : ResolveError → Text
  | .directoryImport _ url =>
    ("Directory import '" : Text) ++ url.render ++
      "' is not supported resolving ES modules".toList
  | .moduleNotFound specifier url =>
    ("Cannot find module '" : Text) ++ (url.map Url.render).getD specifier ++ ['\'']
  | .unknownBuiltin specifier => ("No such built-in module: " : Text) ++ specifier
  | .invalidSpecifier specifier why =>
    ("Invalid specifier '" : Text) ++ specifier ++ "': ".toList ++ why.message
  | .notAFile url =>
    ("Only file: URLs are supported, got '" : Text) ++ url.render ++ ['\'']
  | .invalidPath path => ("Invalid path '" : Text) ++ path ++ ['\'']
  | .other message => message

/-- **Why the library fails.** -/
inductive LoaderError where
  /-- A missing stylesheet has no source. -/
  | sourceNotFound (path : Path)
  /-- A stylesheet does not compile. -/
  | stylesheetCompile (path : Path) (reason : Text)
  /-- Resolution failed. -/
  | resolve (why : ResolveError)
  /-- A text that makes no URL, or a URL that leads to no file. -/
  | invalidUrl (text : Text)
  /-- The system refused. -/
  | fileSystem (why : SystemError)
  /-- A configuration was refused. -/
  | config (why : ConfigError)
  /-- A configuration file is malformed. -/
  | document (reason : Text)
  deriving DecidableEq, Repr

/-- The wording of a failure. -/
def LoaderError.message : LoaderError → Text
  | .sourceNotFound path => ("Cannot find source of '" : Text) ++ path ++ ['\'']
  | .stylesheetCompile path reason =>
    ("Cannot compile '" : Text) ++ path ++ "': ".toList ++ reason
  | .resolve why => why.message
  | .invalidUrl text => ("Invalid module URL '" : Text) ++ text ++ ['\'']
  | .fileSystem why => ("File system error: " : Text) ++ why.message
  | .config why => ("Configuration error: " : Text) ++ why.message
  | .document reason => ("TOML parse error: " : Text) ++ reason

end ModuleHooks
