import ModuleHooks.Import.Context
import ModuleHooks.Journal
import ModuleHooks.Specifier.Extension
/-!
# Resolving imports

The hook in front of a host's resolution. Stylesheets and assets are answered at once
and by their specifier alone. Everything else goes to the host; if the host fails
because the target is a directory, or because nothing is there, files that may have been
meant are looked for next to the URL of the failure, and the host is asked once more,
for the first of them if there is one and for the specifier itself otherwise.
-/

namespace ModuleHooks.Import

/-- The format of an import that is answered here. -/
def syntheticFormat? : ExtensionClass → Option ModuleFormat
  | .stylesheet => some .stylesheet
  | .genericAsset => some .asset
  | .notIntercepted => none

/-- **The URL of an intercepted specifier**: relative to the importing module if there
is one, else that of an absolute path, else the specifier itself. -/
def interceptedUrl (specifier : Text) (context : ResolveContext) : Except LoaderError Url :=
  let url : Option Url :=
    match context.parentUrl with
    | some base => (base.join specifier).toOption
    | none =>
      if Path.isAbsolute specifier then Url.ofFilePath? specifier
      else (Url.parse specifier).toOption
  match url with
  | some url => .ok url
  | none => .error (.invalidUrl specifier)

/-- The files that the import of a directory may mean, in order. -/
def directoryCandidates (dir : Path) : List Text :=
  let base := (Path.fileName? dir).getD []
  ["index.js".toList, base ++ ".cjs.js".toList, base ++ ".js".toList]

/-- The specifier of a file in the directory that a specifier names. -/
def extendDirectory (specifier file : Text) : Text :=
  Text.trimEnd (· == '/') specifier ++ '/' :: file

/-- What to ask the host for after the import of a directory: nothing new if no
candidate is there. -/
def directoryRetry (fs : FileSystem) (specifier : Text) (url : Url) : Option Text :=
  url.toFilePath?.bind fun dir =>
    ((directoryCandidates dir).find? fun file => fs.isFile (Path.join dir file)).map
      (extendDirectory specifier)

/-- What to ask the host for after an import of nothing: nothing new if there is no file
with the extension appended. -/
def extensionRetry (fs : FileSystem) (specifier : Text) (url : Url) : Option Text :=
  url.toFilePath?.bind fun path =>
    if fs.isFile (path ++ ".js".toList) then some (specifier ++ ".js".toList) else none

/-- **The second question** to the host, with the note that goes with it. There is none
unless the first failed in one of the two ways that carry a URL. -/
def retry? (fs : FileSystem) (specifier : Text) :
    Except ResolveError ResolvedModule → Option (Text × Option Event)
  | .error (.directoryImport _ url) =>
    match directoryRetry fs specifier url with
    | some adjusted => some (adjusted, some (.retryDirectory specifier adjusted))
    | none => some (specifier, none)
  | .error (.moduleNotFound _ (some url)) =>
    match extensionRetry fs specifier url with
    | some adjusted => some (adjusted, some (.retryExtension specifier adjusted))
    | none => some (specifier, none)
  | _ => none

/-- **Resolves a specifier** in front of a host in a given state. -/
def resolve {σ : Type} (fs : FileSystem) (host : ResolveHost σ) (state : σ)
    (specifier : Text) (context : ResolveContext) :
    Logged (σ × Except LoaderError ResolvedModule) :=
  match syntheticFormat? (Specifier.classify specifier) with
  | some format =>
    match interceptedUrl specifier context with
    | .error why => .silent (state, .error why)
    | .ok url =>
      .noted (.found specifier format)
        (.silent (state, .ok { url, format := some format, shortCircuit := true }))
  | none =>
    let (state, first) := host.resolve state specifier context
    match retry? fs specifier first with
    | none => .silent (state, first.mapError .resolve)
    | some (again, note) =>
      let (state, second) := host.resolve state again context
      ⟨(state, second.mapError .resolve), note.toList⟩

end ModuleHooks.Import
