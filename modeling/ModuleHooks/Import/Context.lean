import ModuleHooks.Failure
import ModuleHooks.Import.Format
import ModuleHooks.Url.FilePath
/-!
# What passes between the hooks and their host

Contexts and results of resolution and loading, and the hosts that stand behind the
hooks. A host keeps a state of its own and may answer each call differently; `recording`
is the host that writes down the calls it passes on.
-/

namespace ModuleHooks

/-- **The context of an import.** -/
structure ResolveContext where
  /-- The URL of the importing module, absent for an entry point. -/
  parentUrl : Option Url := none
  /-- The conditions of the import, which are the host's business. -/
  conditions : List Text := []
  deriving DecidableEq, Repr

/-- The context of an import from the file at a path. -/
def ResolveContext.ofParentPath (parent : Path) : Except LoaderError ResolveContext :=
  match Url.ofFilePath? parent with
  | some url => .ok { parentUrl := some url }
  | none => .error (.invalidUrl parent)

/-- **The result of resolution.** -/
structure ResolvedModule where
  /-- The URL of the module. -/
  url : Url
  /-- Its format, when it is known. -/
  format : Option ModuleFormat := none
  /-- Whether the rest of the chain is skipped. -/
  shortCircuit : Bool := false
  deriving DecidableEq, Repr

/-- **The context of a load.** -/
structure LoadContext where
  /-- The format that resolution attached. -/
  format : Option ModuleFormat := none
  /-- The conditions of the import. -/
  conditions : List Text := []
  deriving DecidableEq, Repr

/-- The context for loading what was resolved. -/
def LoadContext.ofResolved (m : ResolvedModule) : LoadContext := { format := m.format }

/-- **The result of loading.** -/
structure LoadedModule where
  /-- The source, absent for modules of the host. -/
  source : Option Text
  /-- The format of the source. -/
  format : ModuleFormat
  /-- Whether the rest of the chain is skipped. -/
  shortCircuit : Bool
  deriving DecidableEq, Repr

/-- A source that was made up here: a standard module that ends the chain. -/
def LoadedModule.synthetic (source : Text) : LoadedModule :=
  { source := some source, format := .module, shortCircuit := true }

/-- **A host that resolves**, with states of type `σ`. -/
structure ResolveHost (σ : Type) where
  /-- Answers one call. -/
  resolve : σ → Text → ResolveContext → σ × Except ResolveError ResolvedModule

/-- **A host that loads**, with states of type `σ`. -/
structure LoadHost (σ : Type) where
  /-- Answers one call. -/
  load : σ → Url → LoadContext → σ × Except LoaderError LoadedModule

/-- A call of a resolving host. -/
structure ResolveCall where
  specifier : Text
  context : ResolveContext
  deriving DecidableEq, Repr

/-- A call of a loading host. -/
structure LoadCall where
  url : Url
  context : LoadContext
  deriving DecidableEq, Repr

/-- The host that answers as another one does and writes down each call, last first. -/
def ResolveHost.recording {σ : Type} (host : ResolveHost σ) :
    ResolveHost (σ × List ResolveCall) where
  resolve state specifier context :=
    let (next, answer) := host.resolve state.1 specifier context
    ((next, ⟨specifier, context⟩ :: state.2), answer)

/-- The host that answers as another one does and writes down each call, last first. -/
def LoadHost.recording {σ : Type} (host : LoadHost σ) : LoadHost (σ × List LoadCall) where
  load state url context :=
    let (next, answer) := host.load state.1 url context
    ((next, ⟨url, context⟩ :: state.2), answer)

/-- The host that answers from a list, one answer a call, and refuses once the list is
used up. -/
def ResolveHost.scripted :
    ResolveHost (List (Text → Except ResolveError ResolvedModule)) where
  resolve script specifier _ :=
    match script with
    | [] => ([], .error (.other "script exhausted"))
    | answer :: rest => (rest, answer specifier)

/-- The host that always gives the same answer. -/
def LoadHost.constant (answer : Except LoaderError LoadedModule) : LoadHost Unit where
  load _ _ _ := ((), answer)

end ModuleHooks
