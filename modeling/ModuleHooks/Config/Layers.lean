import ModuleHooks.Config.Document
import ModuleHooks.Failure
import ModuleHooks.Journal
/-!
# Layers of configuration

A configuration is built up from the defaults by a global file, a file in the project's
directory, and environment variables, in this order. Files that are not there are passed
over; files that are there must be readable and well formed. A variable whose value is
refused is noted and changes nothing.

A process has its variables in bytes, and they need not be texts. Going through them panics
at the first one that is none, whatever it is about. By then the files have been read, so a
fault of a file is reported first. An environment is what is left when this cannot happen:
variables that are texts.
-/

namespace ModuleHooks

/-- **The environment**: names and values, in the order in which they were first set. -/
abbrev Environment := List (Text × Text)

namespace Environment

/-- The environment with a variable set. A variable that was set before keeps its
place. -/
def set (env : Environment) (name value : Text) : Environment :=
  if env.any (·.1 == name) then env.map fun v => if v.1 = name then (name, value) else v
  else env ++ [(name, value)]

/-- The directory of the user's configuration files. -/
def configDirectory? (env : Environment) : Option Path :=
  match (Text.lookup? "XDG_CONFIG_HOME" env).filter Path.isAbsolute with
  | some dir => some dir
  | none =>
    ((Text.lookup? "HOME" env).filter (· != [])).map fun home => Path.join home ".config"

/-- The variables as a process has them. -/
def bytes (env : Environment) : List (List UInt8 × List UInt8) :=
  env.map fun v => (Text.utf8 v.1, Text.utf8 v.2)

end Environment

/-- **The variables of a process**: names and values in bytes, in the order in which the
process has them. -/
abbrev ProcessVariables := List (List UInt8 × List UInt8)

namespace ProcessVariables

/-- A variable whose name and value are texts. -/
def text? (v : List UInt8 × List UInt8) : Option (Text × Text) :=
  (Text.decodeUtf8? v.1).bind fun name => (Text.decodeUtf8? v.2).map fun value => (name, value)

/-- Whether all variables are texts. -/
def areTexts (vars : ProcessVariables) : Bool := vars.all fun v => (text? v).isSome

/-- The variables before the first one that is no text. -/
def readable : ProcessVariables → Environment
  | [] => []
  | v :: rest =>
    match text? v with
    | some v => v :: readable rest
    | none => []

/-- The value of a variable. -/
def value? (vars : ProcessVariables) (name : Text) : Option (List UInt8) :=
  (vars.find? fun v => v.1 == Text.utf8 name).map (·.2)

/-- The directory of the user's configuration files. The names of files are texts here, so
a directory whose path is no text is not there. -/
def configDirectory? (vars : ProcessVariables) : Option Path :=
  match (vars.value? "XDG_CONFIG_HOME").filter fun dir => dir.head? == some 0x2F with
  | some dir => Text.decodeUtf8? dir
  | none =>
    (((vars.value? "HOME").filter (· != [])).bind Text.decodeUtf8?).map
      fun home => Path.join home ".config"

end ProcessVariables

namespace Config

/-- The name of the project's configuration file. -/
def fileName : Text := "jopi-loader.toml"

/-- What the names of the variables begin with. -/
def variableStart : Text := "JOPI_LOADER_"

/-- The path of the global configuration file in the user's directory. -/
def globalPath (dir : Path) : Path := Path.join (Path.join dir "jopi") "loader.toml"

/-- The path of the global configuration file. -/
def globalPath? (env : Environment) : Option Path := env.configDirectory?.map globalPath

/-- The path of the configuration file of a project. -/
def projectPath (dir : Path) : Path := Path.join dir fileName

/-- The text of a file and what is made of it. -/
def readWith (fs : FileSystem) (p : Path) (read : Text → Except Toml.Fault Config) :
    Except LoaderError Config :=
  match fs.readText p with
  | .error why => .error (.fileSystem why)
  | .ok document => (read document).mapError fun f => .document (f.render document)

/-- **Reads a configuration file on its own.** -/
def ofFile (fs : FileSystem) (p : Path) : Except LoaderError Config := readWith fs p parse

/-- **Puts a file on top of a configuration.** -/
def mergeFile (fs : FileSystem) (c : Config) (p : Path) : Logged (Except LoaderError Config) :=
  .noted (.readingConfig p) (.silent (readWith fs p c.overlay))

/-- Puts a file on top of a configuration, if the file is there. -/
def mergeIfPresent (fs : FileSystem) (c : Config) (p : Path) :
    Logged (Except LoaderError Config) :=
  if fs.isFile p then mergeFile fs c p else .silent (.ok c)

/-- The key that a variable is about, when it is about the configuration. -/
def variableKey? (name : Text) : Option Text :=
  (Text.stripStart? variableStart name).map fun rest =>
    Text.replaceChar '_' ['-'] (Text.lower rest)

/-- The variable that sets a key, in its usual spelling. -/
def variableName (k : Key) : Text :=
  variableStart ++ Text.replaceChar '-' ['_'] (Text.upperAscii k.name)

/-- The configuration after one variable. -/
def applyVariable (c : Config) (v : Text × Text) : Logged Config :=
  match variableKey? v.1 with
  | none => .silent c
  | some key =>
    match c.set key v.2 with
    | .ok c => .silent c
    | .error why => .noted (.ignoringVariable v.1 why) (.silent c)

/-- The configuration after the variables of an environment. -/
def applyVariables (c : Config) : Environment → Logged Config
  | [] => .silent c
  | v :: rest => (applyVariable c v).andThen fun c => applyVariables c rest

/-- The configuration of a project before its variables: the defaults, the global file, and
the project's own. -/
def loadFiles (fs : FileSystem) (global : Option Path) (dir : Path) :
    Logged (Except LoaderError Config) :=
  let start : Logged (Except LoaderError Config) :=
    match global with
    | some p => mergeIfPresent fs {} p
    | none => .silent (.ok {})
  start.andThen fun
    | .error why => .silent (.error why)
    | .ok c => mergeIfPresent fs c (projectPath dir)

/-- **The configuration of a project.** -/
def load (fs : FileSystem) (env : Environment) (dir : Path) :
    Logged (Except LoaderError Config) :=
  (loadFiles fs (globalPath? env) dir).andThen fun
    | .error why => .silent (.error why)
    | .ok c => (applyVariables c env).map .ok

/-- **Why a process has no configuration.** -/
inductive Halt where
  /-- A file cannot be used. -/
  | failed (why : LoaderError)
  /-- The process panics, because one of its variables is no text. -/
  | panicked
  deriving DecidableEq, Repr

/-- **The configuration of a project in a process.** -/
def loadIn (fs : FileSystem) (vars : ProcessVariables) (dir : Path) :
    Logged (Except Halt Config) :=
  (loadFiles fs (vars.configDirectory?.map globalPath) dir).andThen fun
    | .error why => .silent (.error (.failed why))
    | .ok c =>
      (applyVariables c vars.readable).map fun c =>
        if vars.areTexts then .ok c else .error .panicked

end Config

end ModuleHooks
