import ModuleHooks.Config.Basic
import ModuleHooks.FileSystem.Basic
/-!
# Sources of missing stylesheets

Built scripts still import the stylesheets they were written against, but the build
does not copy those. A missing stylesheet is therefore looked for beside itself and in
the source directory that the build output came from, under its own extension and under
that of its counterpart.
-/

namespace ModuleHooks

/-- **A locator** leads from output directories back to a source directory. -/
structure Locator where
  /-- Names of output directories. -/
  outputDirs : List Text
  /-- The source directory. -/
  sourceDir : Text
  deriving DecidableEq, Repr

namespace Locator

/-- The locator of a configuration. -/
def ofConfig (c : Config) : Locator := ⟨c.outputDirs, c.sourceDir⟩

/-- Whether a component names an output directory. -/
def isOutput (l : Locator) : Path.Component → Bool
  | .normal name => l.outputDirs.contains name
  | _ => false

/-- The components before and after the last one that satisfies `p`. -/
def splitAtLast? (p : Path.Component → Bool) :
    List Path.Component → Option (List Path.Component × List Path.Component)
  | [] => none
  | c :: r =>
    match splitAtLast? p r with
    | some (before, after) => some (c :: before, after)
    | none => if p c then some ([], r) else none

/-- Appends components to a path, one after the other. -/
def extend (dir : Path) (components : List Path.Component) : Path :=
  components.foldl (fun p c => Path.join p c.text) dir

/-- **The directory in the sources**: the last output directory on the way replaced by the
source directory. -/
def inSources? (l : Locator) (dir : Path) : Option Path :=
  (splitAtLast? l.isOutput (Path.components dir)).map fun x =>
    extend (Path.join (extend [] x.1) l.sourceDir) x.2

/-- The extensions to try for a file with the given one. -/
def extensions (extension : Text) : List Text :=
  if extension = ("css" : Text) then ["css", "scss"]
  else if extension = ("scss" : Text) then ["scss", "css"]
  else [extension]

/-- A file name with an extension, if there is one. -/
def named (stem extension : Text) : Text :=
  if extension = [] then stem else stem ++ '.' :: extension

/-- The directories to try for a file. -/
def directories (l : Locator) (missing : Path) : List Path :=
  match Path.parent? missing with
  | none => []
  | some dir =>
    match l.inSources? dir with
    | none => [dir]
    | some source => [dir, source]

/-- **The candidates for a missing file**, in probing order. -/
def candidates (l : Locator) (missing : Path) : List Path :=
  match Path.stem? missing with
  | none => []
  | some stem =>
    let extension := Text.lowerAscii ((Path.extension? missing).getD [])
    (l.directories missing).flatMap fun dir =>
      (extensions extension).map fun e => Path.join dir (named stem e)

/-- **The source of a missing file**: its first candidate that is a regular file. -/
def find? (l : Locator) (fs : FileSystem) (missing : Path) : Option Path :=
  (l.candidates missing).find? fs.isFile

end Locator

end ModuleHooks
