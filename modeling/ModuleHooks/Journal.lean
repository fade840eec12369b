import ModuleHooks.Config.Setting
import ModuleHooks.Import.Format
import ModuleHooks.Stylesheet.Scope
/-!
# Journals

Operations note what they do. A note is a value, and the notes of an operation are part
of its result, in order, so that a statement can say what was noted and when.
-/

namespace ModuleHooks

/-- How much a note matters. -/
inductive Level where
  | debug
  | warn
  deriving DecidableEq, Repr

/-- The name of a level. -/
def Level.name : Level → Text
  | .debug => "DEBUG"
  | .warn => "WARN"

/-- **A note.** -/
inductive Event where
  /-- A missing file was replaced by its source. -/
  | usingSource (source missing : Path)
  /-- A stylesheet is about to be compiled. -/
  | compiling (path : Path) (scope : Scope)
  /-- A stylesheet could not be compiled. -/
  | cannotCompile (path : Path) (reason : Text)
  /-- The plugin took over a file. -/
  | intercepted (path : Path)
  /-- Resolution answered an import itself. -/
  | found (specifier : Text) (format : ModuleFormat)
  /-- A directory import is tried again. -/
  | retryDirectory (specifier adjusted : Text)
  /-- An import without an extension is tried again. -/
  | retryExtension (specifier adjusted : Text)
  /-- A stylesheet is about to be loaded. -/
  | loading (path : Path)
  /-- A configuration file is about to be read. -/
  | readingConfig (path : Path)
  /-- An environment variable was refused. -/
  | ignoringVariable (name : Text) (reason : ConfigError)
  /-- The guard was taken already. -/
  | alreadyRegistered
  /-- The hooks are being registered. -/
  | registeringHooks
  /-- The plugin is being registered. -/
  | registeringPlugin
  deriving DecidableEq, Repr

namespace Event

/-- The level of a note. -/
def level : Event → Level
  | .cannotCompile _ _ => .warn
  | _ => .debug

/-- The part of the library that makes a note. -/
def target : Event → Text
  | .usingSource _ _ => "jopi_loader::locator"
  | .compiling _ _ | .cannotCompile _ _ => "jopi_loader::stylesheet"
  | .intercepted _ => "jopi_loader::plugin"
  | .found _ _ | .retryDirectory _ _ | .retryExtension _ _ => "jopi_loader::hooks::resolve"
  | .loading _ => "jopi_loader::hooks::load"
  | .readingConfig _ | .ignoringVariable _ _ => "jopi_loader::config"
  | .alreadyRegistered | .registeringHooks | .registeringPlugin => "jopi_loader::registration"

/-- The wording of a note. -/
def message : Event → Text
  | .usingSource source missing =>
    ("Using " : Text) ++ source ++ " as source of ".toList ++ missing
  | .compiling path scope =>
    ("Compiling " : Text) ++ path ++ " (".toList ++ scope.label ++ ")".toList
  | .cannotCompile path reason =>
    ("jopi-loader - cannot compile " : Text) ++ path ++ ": ".toList ++ reason
  | .intercepted path => ("jopi-loader intercepted " : Text) ++ path
  | .found specifier format =>
    ("jopi-loader found: " : Text) ++ specifier ++ " format is ".toList ++ format.name
  | .retryDirectory specifier adjusted =>
    ("Resolving directory import " : Text) ++ specifier ++ " as ".toList ++ adjusted
  | .retryExtension specifier adjusted =>
    ("Resolving " : Text) ++ specifier ++ " as ".toList ++ adjusted
  | .loading path => ("Loading stylesheet " : Text) ++ path
  | .readingConfig path => ("Reading loader config from " : Text) ++ path
  | .ignoringVariable name reason =>
    ("Ignoring " : Text) ++ name ++ ": Configuration error: ".toList ++ reason.message
  | .alreadyRegistered => "jopi-loader already registered"
  | .registeringHooks => "Registering jopi-loader resolve/load hooks"
  | .registeringPlugin => "Registering jopi-loader plugin"

/-- A note with its level in front. -/
def render (e : Event) : Text := e.level.name ++ ' ' :: e.message

end Event

/-- **A result together with the notes made on the way to it.** -/
structure Logged (α : Type) where
  /-- The result. -/
  value : α
  /-- The notes, first to last. -/
  events : List Event := []
  deriving Repr

namespace Logged

/-- A result reached without a note. -/
def silent {α : Type} (a : α) : Logged α := ⟨a, []⟩

/-- A result after one note. -/
def noted {α : Type} (e : Event) (x : Logged α) : Logged α := ⟨x.value, e :: x.events⟩

/-- One operation after another. -/
def andThen {α β : Type} (x : Logged α) (f : α → Logged β) : Logged β :=
  ⟨(f x.value).value, x.events ++ (f x.value).events⟩

/-- A function applied to the result. -/
def map {α β : Type} (f : α → β) (x : Logged α) : Logged β := ⟨f x.value, x.events⟩

@[simp] theorem value_silent {α : Type} (a : α) : (silent a).value = a := rfl

@[simp] theorem events_silent {α : Type} (a : α) : (silent a).events = [] := rfl

@[simp] theorem value_noted {α : Type} (e : Event) (x : Logged α) :
    (noted e x).value = x.value := rfl

@[simp] theorem events_noted {α : Type} (e : Event) (x : Logged α) :
    (noted e x).events = e :: x.events := rfl

@[simp] theorem value_andThen {α β : Type} (x : Logged α) (f : α → Logged β) :
    (x.andThen f).value = (f x.value).value := rfl

@[simp] theorem value_map {α β : Type} (f : α → β) (x : Logged α) :
    (x.map f).value = f x.value := rfl

end Logged

end ModuleHooks
