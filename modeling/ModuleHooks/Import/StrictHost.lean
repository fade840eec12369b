import ModuleHooks.Import.Context
import ModuleHooks.Import.Manifest
import ModuleHooks.Specifier.Bare
/-!
# The strict host

A host of its own for use without any other: it resolves relative specifiers, file URLs,
its own modules and packages, and reads sources from the disk. It appends no extension
and opens no directory; where an import would need that it fails with the error from
which the hooks make their second attempt.
-/

namespace ModuleHooks.StrictHost

/-- A path and the paths above it, innermost first. The first argument bounds their
number. -/
def ancestorsFrom : Nat → Path → List Path
  | 0, p => [p]
  | n + 1, p =>
    match Path.parent? p with
    | none => [p]
    | some above => p :: ancestorsFrom n above

/-- **A path and all paths above it**, innermost first. -/
def ancestors (p : Path) : List Path := ancestorsFrom p.length p

/-- The format that the nearest manifest gives to the files in these directories. -/
def packageFormat (fs : FileSystem) (dirs : List Path) : ModuleFormat :=
  match dirs.findSome? fun dir => Manifest.read? fs (Path.join dir "package.json") with
  | some m => if m.kind = some "module" then .module else .commonJs
  | none => .commonJs

/-- **The format of a file**: by its extension, else by the nearest manifest. -/
def detectFormat (fs : FileSystem) (p : Path) : ModuleFormat :=
  let extension := (Path.extension? p).getD []
  if extension = ("mjs" : Text) then .module
  else if extension = ("cjs" : Text) then .commonJs
  else if extension = ("json" : Text) then .json
  else packageFormat fs (((Path.parent? p).map ancestors).getD [])

/-- Resolves to a URL as it stands. -/
def resolveUrl (fs : FileSystem) (specifier : Text) (url : Url) :
    Except ResolveError ResolvedModule :=
  match url.toFilePath? with
  | none => .error (.notAFile url)
  | some path =>
    match fs.node? path with
    | none => .error (.moduleNotFound specifier (some url))
    | some node =>
      if node = .directory then .error (.directoryImport specifier url)
      else .ok { url, format := some (detectFormat fs path) }

/-- The entry file of a package directory. -/
def packageEntry (fs : FileSystem) (dir : Path) : Path :=
  match (Manifest.read? fs (Path.join dir "package.json")).bind Manifest.entry with
  | some entry => Path.join dir entry
  | none => Path.join dir "index.js"

/-- The directory that a package has below another directory. -/
def packageDirectory (name : Text) (dir : Path) : Path :=
  Path.join (Path.join dir "node_modules") name

/-- The directory in which the search for packages begins: that of the importing file,
else the working directory. -/
def searchStart (fs : FileSystem) (parent : Option Url) : Path :=
  ((parent.bind Url.toFilePath?).bind Path.parent?).getD fs.workingPath

/-- **Resolves a package specifier**: in the nearest directory above that holds the
package. -/
def resolvePackage (fs : FileSystem) (specifier : Text) (parent : Option Url) :
    Except ResolveError ResolvedModule :=
  match PackageSpecifier.parse specifier with
  | none => .error (.moduleNotFound specifier none)
  | some package =>
    let dirs := (ancestors (searchStart fs parent)).map (packageDirectory package.name)
    match dirs.find? fs.isDirectory with
    | none => .error (.moduleNotFound specifier none)
    | some dir =>
      let target :=
        match package.subpath with
        | some sub => Path.join dir sub
        | none => packageEntry fs dir
      match Url.ofFilePath? target with
      | some url => resolveUrl fs specifier url
      | none => .error (.invalidPath target)

/-- Whether a specifier is relative or an absolute path. -/
def isRelative (specifier : Text) : Bool :=
  ["./".toList, "../".toList, "/".toList].any (Text.startsWith specifier)

/-- Resolves a relative specifier, or an absolute path. -/
def resolveRelative (fs : FileSystem) (specifier : Text) (parent : Option Url) :
    Except ResolveError ResolvedModule :=
  let url :=
    match parent with
    | some base => base.join specifier
    | none =>
      match Url.ofFilePath? specifier with
      | some url => .ok url
      | none => .error .relativeWithoutBase
  match url with
  | .ok url => resolveUrl fs specifier url
  | .error why => .error (.invalidSpecifier specifier why)

/-- **Resolves a specifier.** -/
def resolve (fs : FileSystem) (specifier : Text) (context : ResolveContext) :
    Except ResolveError ResolvedModule :=
  match Builtin.lookup specifier with
  | .found name =>
    .ok { url := { scheme := "node", path := .opaqueText name }
          format := some .builtin
          shortCircuit := true }
  | .unknown => .error (.unknownBuiltin specifier)
  | .unrelated =>
    if isRelative specifier then resolveRelative fs specifier context.parentUrl
    else
      match Url.parse specifier with
      | .ok url =>
        if Url.isFileScheme url.scheme then resolveUrl fs specifier url
        else resolvePackage fs specifier context.parentUrl
      | .error _ => resolvePackage fs specifier context.parentUrl

/-- **Loads a module from the disk.** -/
def load (fs : FileSystem) (url : Url) (context : LoadContext) :
    Except LoaderError LoadedModule :=
  if url.scheme = ("node" : Text) || context.format = some .builtin then
    .ok { source := none, format := .builtin, shortCircuit := true }
  else
    match url.toFilePath? with
    | none => .error (.invalidUrl url.render)
    | some path =>
      match fs.readText path with
      | .error why => .error (.fileSystem why)
      | .ok source =>
        .ok { source := some source
              format := context.format.getD (detectFormat fs path)
              shortCircuit := true }

/-- The strict host as a host that resolves. -/
def resolver (fs : FileSystem) : ResolveHost Unit where
  resolve _ specifier context := ((), resolve fs specifier context)

/-- The strict host as a host that loads. -/
def loader (fs : FileSystem) : LoadHost Unit where
  load _ url context := ((), load fs url context)

end ModuleHooks.StrictHost
