import ModuleHooks.Import.Context
import ModuleHooks.Stylesheet.Compiler
/-!
# Loading modules

The hook in front of a host's loading. The two formats that resolution attaches here
are loaded here; the host loads everything else.
-/

namespace ModuleHooks.Import

/-- The path that an asset's module exports: that of the file, else the URL itself. -/
def assetPath (url : Url) : Text := url.toFilePath?.getD url.render

/-- Loads an asset. -/
def loadAsset (c : Config) (url : Url) : LoadedModule :=
  .synthetic (Emission.assetModule c.assetExport (assetPath url))

/-- Loads a stylesheet. -/
def loadStylesheet (c : Config) (draws : Sass.Draws) (fs : FileSystem) (url : Url) :
    Logged (Except LoaderError LoadedModule) :=
  match url.toFilePath? with
  | none => .silent (.error (.invalidUrl url.render))
  | some path =>
    .noted (.loading path)
      ((Stylesheet.compileModule c draws fs path).map fun r => r.map .synthetic)

/-- **Loads a URL** in front of a host in a given state. -/
def load {σ : Type} (c : Config) (draws : Sass.Draws) (fs : FileSystem) (host : LoadHost σ)
    (state : σ) (url : Url) (context : LoadContext) :
    Logged (σ × Except LoaderError LoadedModule) :=
  match context.format with
  | some .asset => .silent (state, .ok (loadAsset c url))
  | some .stylesheet => (loadStylesheet c draws fs url).map fun r => (state, r)
  | _ => .silent (host.load state url context)

end ModuleHooks.Import
