import ModuleHooks.Text.Basic
/-!
# Configuration

The seven settings that the hooks, the plugin and the compiler share, with their names
and their default values.
-/

namespace ModuleHooks

/-- **How scoped class names are formed.** -/
inductive ClassNaming where
  /-- File name, local name and a hash of the file's path. -/
  | hashed
  /-- File name and local name. -/
  | plain
  deriving DecidableEq, Repr

/-- **How the keys of the exported class map are spelled.** -/
inductive LocalsConvention where
  /-- As authored. -/
  | asIs
  /-- In camel case. -/
  | camelCaseOnly
  deriving DecidableEq, Repr

/-- **What an asset module exports.** -/
inductive AssetExport where
  /-- An empty object. -/
  | emptyObject
  /-- The path of the asset. -/
  | path
  deriving DecidableEq, Repr

/-- **The configuration.** -/
structure Config where
  /-- How scoped class names are formed. -/
  classNaming : ClassNaming := .hashed
  /-- How the keys of the exported class map are spelled. -/
  localsConvention : LocalsConvention := .asIs
  /-- What an asset module exports. -/
  assetExport : AssetExport := .emptyObject
  /-- The global that is called with the path and the CSS of plain stylesheets. -/
  onCssImported : Option Text := some "jopiOnCssImported".toList
  /-- The global that is called with the CSS of scoped stylesheets. -/
  onCss : Option Text := some "jopiloader-oncss".toList
  /-- The names of the directories that hold build output. -/
  outputDirs : List Text := ["dist".toList]
  /-- The directory that holds authored sources. -/
  sourceDir : Text := "src".toList
  deriving DecidableEq, Repr

namespace ClassNaming

/-- The name of a choice in configuration files. -/
def name : ClassNaming → Text
  | .hashed => "hashed"
  | .plain => "plain"

/-- All choices, in the order in which messages list them. -/
def all : List ClassNaming := [.hashed, .plain]

/-- The template of scoped names. -/
def template : ClassNaming → Text
  | .hashed => "[name]__[local]___[hash]"
  | .plain => "[name]__[local]"

end ClassNaming

namespace LocalsConvention

/-- The name of a choice in configuration files. -/
def name : LocalsConvention → Text
  | .asIs => "as-is"
  | .camelCaseOnly => "camel-case-only"

/-- All choices, in the order in which messages list them. -/
def all : List LocalsConvention := [.asIs, .camelCaseOnly]

end LocalsConvention

namespace AssetExport

/-- The name of a choice in configuration files. -/
def name : AssetExport → Text
  | .emptyObject => "empty-object"
  | .path => "path"

/-- All choices, in the order in which messages list them. -/
def all : List AssetExport := [.emptyObject, .path]

end AssetExport

/-- **A key of the configuration.** -/
inductive Key where
  | classNaming
  | localsConvention
  | assetExport
  | onCssImported
  | onCss
  | outputDirs
  | sourceDir
  deriving DecidableEq, Repr

namespace Key

/-- The name of a key. -/
def name : Key → Text
  | .classNaming => "class-naming"
  | .localsConvention => "locals-convention"
  | .assetExport => "asset-export"
  | .onCssImported => "on-css-imported"
  | .onCss => "on-css"
  | .outputDirs => "output-dirs"
  | .sourceDir => "source-dir"

/-- All keys, in the order of the configuration's fields. -/
def all : List Key :=
  [.classNaming, .localsConvention, .assetExport, .onCssImported, .onCss, .outputDirs,
    .sourceDir]

/-- The key of a name. -/
def ofName? (name : Text) : Option Key := all.find? fun k => k.name == name

end Key

end ModuleHooks
