import ModuleHooks.Config.Layers
import ModuleHooks.CommandLine.Run
import ModuleHooks.Declarations
import ModuleHooks.Import.Load
import ModuleHooks.Import.Resolve
import ModuleHooks.Import.StrictHost
import ModuleHooks.Main
import ModuleHooks.Plugin
import ModuleHooks.Registration
import ModuleHooks.Proofs.Import.Format
import ModuleHooks.Proofs.Import.Relative
import ModuleHooks.Proofs.Specifier.Extension
import ModuleHooks.Proofs.Stylesheet.Source
import ModuleHooks.Proofs.Config.Fields
import ModuleHooks.Proofs.Config.Layers
import ModuleHooks.Proofs.Config.Variables
import ModuleHooks.Proofs.Import.Transform
import ModuleHooks.Proofs.FileSystem.Lookup
import ModuleHooks.Proofs.Path.Ascent
import ModuleHooks.Proofs.Import.Containment
import ModuleHooks.Proofs.Registration.Interleaving
import ModuleHooks.Proofs.Import.Isolation
import ModuleHooks.Proofs.Text.Quoted
import ModuleHooks.Proofs.Emission.Decoding
import ModuleHooks.Proofs.Path.Extension
import ModuleHooks.Proofs.Stylesheet.Sibling
import ModuleHooks.Proofs.Stylesheet.ClassMap
import ModuleHooks.Proofs.Stylesheet.Composition
import ModuleHooks.Proofs.Stylesheet.Outcome
import ModuleHooks.Proofs.Stylesheet.Uniqueness
import ModuleHooks.Proofs.Stylesheet.Values
import ModuleHooks.Proofs.Import.TrailingSlash
import ModuleHooks.Proofs.Import.Canonical
import ModuleHooks.Proofs.Path.Components
import ModuleHooks.Proofs.Stylesheet.Location
import ModuleHooks.Proofs.Import.Nearest
import ModuleHooks.Proofs.FileSystem.Contents
import ModuleHooks.Proofs.Json.Skimming
import ModuleHooks.Proofs.Json.Members
import ModuleHooks.Proofs.Import.Manifest
import ModuleHooks.Proofs.Import.Loading
import ModuleHooks.Proofs.Config.Calls
import ModuleHooks.Proofs.Config.TextualForm
import ModuleHooks.Proofs.Config.Overlay
import ModuleHooks.Proofs.Plugin.Filter
import ModuleHooks.Proofs.Toml.UniqueNames
import ModuleHooks.Proofs.Config.Dates
import ModuleHooks.Proofs.Config.Routes
import ModuleHooks.Proofs.FileSystem.IdleSegments
import ModuleHooks.Proofs.Url.LiteralPath
import ModuleHooks.Proofs.Import.AbsolutePath
import ModuleHooks.Proofs.Specifier.Package
import ModuleHooks.Proofs.CommandLine.Refinement
import ModuleHooks.Proofs.Emission.ObjectLiteral
import ModuleHooks.Proofs.Stylesheet.CamelCase
