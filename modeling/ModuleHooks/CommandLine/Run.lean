import ModuleHooks.CommandLine.Reading
import ModuleHooks.Config.Layers
import ModuleHooks.Import.Load
import ModuleHooks.Import.Resolve
import ModuleHooks.Import.StrictHost
/-!
# Running a command

A command runs the hooks in front of the strict host, outside of any other one, and shows
what comes of it. What is made goes to the output; what is said about it goes beside it.

A command line is run in a process that has been started: the arguments are texts, and the
threads that commands are run on are there. Besides the files, a run depends on the variables
of the process and on what is drawn by lot in it. A process that panics over its variables
has an exit code of its own; what it says about that is left out.

The notes of a run are shown as far as directives ask for them: a level, a part of the
library, or both with an equals sign between them, and commas between the directives. A
variable of the process has them; else it is told by the command line whether the notes of all
levels are shown or the warnings only. The directive with the longest name that a part of the
library begins with decides about its notes, and of several ones the last. Directives that are
none, or that ask for something in a span, are passed over.
-/

namespace ModuleHooks.CommandLine

/-- **What comes of a command line.** -/
structure Outcome where
  /-- The exit code. -/
  code : Nat := 0
  /-- What is put out. -/
  output : Text := []
  /-- What is said beside it. -/
  messages : Text := []
  /-- The notes that were made. -/
  events : List Event := []
  /-- The files afterwards. -/
  fs : FileSystem

/-! ## The looks of a text -/

/-- A text in a look of the terminal, which is turned on and off by a number. -/
def styled (on off : Nat) (t : Text) : Text :=
  let turn (n : Nat) : Text := '\x1b' :: '[' :: Text.ofNat n ++ ['m']
  turn on ++ t ++ turn off

/-- A bold text. -/
def bold : Text → Text := styled 1 0

/-- A dimmed text. -/
def dimmed : Text → Text := styled 2 0

/-- A red text. -/
def red : Text → Text := styled 31 39

/-- A green text. -/
def green : Text → Text := styled 32 39

/-- A yellow text. -/
def yellow : Text → Text := styled 33 39

/-- A cyan text. -/
def cyan : Text → Text := styled 36 39

/-! ## What is shown -/

/-- Lines, each with its end. -/
def lines (l : List Text) : Text := l.flatMap fun t => t ++ ['\n']

/-- A failure of a command. -/
def failureLine (message : Text) : Text := bold (red "Error") ++ ':' :: ' ' :: message

/-- What was done to something. -/
def doneLine (done what : Text) : Text := bold (green done) ++ ' ' :: cyan what

/-- A resolved module. -/
def resolvedLines (m : ResolvedModule) : List Text :=
  let format := ((m.format.map ModuleFormat.name).getD "unknown")
  [m.url.render, "  ".toList ++ dimmed "format:" ++ ' ' :: yellow format]
    ++ (if m.shortCircuit then ["  ".toList ++ dimmed "short-circuit"] else [])

/-- A text whose lines are moved to the right. -/
def indented (t : Text) : Text :=
  Text.join ['\n'] ((Text.splitOn '\n' t).map (List.replicate 4 ' ' ++ ·))

/-- The failure that a failure comes from. -/
def cause? : LoaderError → Option Text
  | .fileSystem why => some why.message
  | .document reason => some reason
  | _ => none

/-- **The report of a configuration that cannot be had**, with what it comes from. -/
def configReport (e : LoaderError) : Text :=
  "Error: ".toList ++ e.message
    ++ (match cause? e with
      | some why => "\n\nCaused by:\n".toList ++ indented why
      | none => []) ++ ['\n']

/-! ## The commands -/

/-- What comes of an operation: it is shown, or its failure is. The remarks of a
stylesheet come before both. -/
def conclude {α : Type} (fs : FileSystem) (remarks : List Text)
    (r : Logged (Except LoaderError α)) (present : α → Outcome) : Outcome :=
  let o : Outcome :=
    match r.value with
    | .ok a => present a
    | .error e => { code := 1, messages := lines [failureLine e.message], fs }
  { o with messages := lines remarks ++ o.messages, events := r.events ++ o.events }

/-- The module at the prompt, from which an import comes that has no other parent. -/
def promptModule : Text := "[eval].js"

/-- Resolves a specifier, seen from a module. -/
def resolveFrom (fs : FileSystem) (specifier : Text) (parent : Option Path) :
    Logged (Except LoaderError ResolvedModule) :=
  match ResolveContext.ofParentPath (Path.join fs.workingPath (parent.getD promptModule)) with
  | .error e => .silent (.error e)
  | .ok context =>
    (Import.resolve fs (StrictHost.resolver fs) () specifier context).map (·.2)

/-- Loads a resolved module. -/
def loadResolved (c : Config) (draws : Sass.Draws) (fs : FileSystem) (m : ResolvedModule) :
    Outcome :=
  let remarks : List Text :=
    if m.format = some .stylesheet then
      (m.url.toFilePath?.map (Stylesheet.remarks c draws fs)).getD []
    else []
  let loaded := Import.load c draws fs (StrictHost.loader fs) () m.url (LoadContext.ofResolved m)
  conclude fs remarks (loaded.map (·.2)) fun l =>
    { output := lines [l.source.getD (dimmed "<built-in module>")]
      messages := lines
        [doneLine "Loaded" m.url.render ++ " (".toList ++ dimmed l.format.name ++ [')']]
      fs }

/-- Writes the declarations, or puts them out. -/
def declare (fs : FileSystem) : Option Path → Outcome
  | none => { output := typeDeclarations, fs }
  | some p =>
    match fs.write p typeDeclarations with
    | .ok fs => { messages := lines [doneLine "Wrote" p], fs }
    | .error why => { code := 1, messages := lines [failureLine why.message], fs }

/-- **Does what a command is asked to do.** -/
def Task.run (c : Config) (draws : Sass.Draws) (fs : FileSystem) : Task → Outcome
  | .compile file =>
    let p := Path.join fs.workingPath file
    conclude fs (Stylesheet.remarks c draws fs p) (Stylesheet.compileModule c draws fs p)
      fun source => { output := lines [source], fs }
  | .resolve specifier parent =>
    conclude fs [] (resolveFrom fs specifier parent) fun m => { output := lines (resolvedLines m), fs }
  | .load specifier parent =>
    conclude fs [] (resolveFrom fs specifier parent) (loadResolved c draws fs)
  | .types out => declare fs out

/-- The configuration of a request. A file that is named takes the place of all layers. -/
def Request.readConfig (q : Request) (fs : FileSystem) (vars : ProcessVariables) :
    Logged (Except Config.Halt Config) :=
  match q.config with
  | some p => .silent ((Config.ofFile fs p).mapError .failed)
  | none => Config.loadIn fs vars fs.workingPath

/-- The exit code of a process that panics. -/
def panicCode : Nat := 101

/-- What comes of a request without a configuration. -/
def halted (fs : FileSystem) : Config.Halt → Outcome
  | .failed why => { code := 1, messages := configReport why, fs }
  | .panicked => { code := panicCode, fs }

/-- **Answers a request.** -/
def Request.run (q : Request) (draws : Sass.Draws) (fs : FileSystem) (vars : ProcessVariables) :
    Outcome :=
  let c := q.readConfig fs vars
  let o : Outcome :=
    match c.value with
    | .ok c => q.task.run c draws fs
    | .error why => halted fs why
  { o with events := c.events ++ o.events }

/-- What comes of a command line that asks for nothing to be run. -/
def Stop.outcome (fs : FileSystem) : Stop → Outcome
  | .help c => { output := c.help, fs }
  | .nothingAsked => { code := 2, messages := program.help, fs }
  | .version => { output := lines [programName ++ ' ' :: ModuleHooks.version], fs }
  | .refused e c used => { code := 2, messages := e.report c used, fs }

/-- **Runs a command line** in the working directory of a file system. -/
def run (draws : Sass.Draws) (fs : FileSystem) (vars : ProcessVariables) (words : List Text) :
    Outcome :=
  match Request.read words with
  | .ok q => q.run draws fs vars
  | .error stop => stop.outcome fs

/-! ## Which notes are shown -/

/-- **A directive**: down to which level the notes of a part of the library are shown. -/
structure Directive where
  /-- What the name of the part begins with. -/
  target : Text := []
  /-- The number of levels that are shown. -/
  depth : Nat
  deriving DecidableEq, Repr

/-- The names of the levels, behind the one that shows none. -/
def levelNames : List Text :=
  ["off".toList, "error".toList, "warn".toList, "info".toList, "debug".toList, "trace".toList]

/-- The number of levels that a level shows. -/
def depth? (name : Text) : Option Nat :=
  let known := levelNames.zipIdx ++ (List.range levelNames.length).map fun n => (Text.ofNat n, n)
  Text.lookup? (Text.lowerAscii name) known

namespace Directive

/-- Reads a directive. -/
def read? (t : Text) : Option Directive :=
  if t.any fun c => c == '[' || c == ' ' then none
  else
    match Text.splitFirst? ['='] t with
    | some (target, name) => (depth? name).map fun depth => { target, depth }
    | none =>
      some
        (match depth? t with
        | some depth => { depth }
        | none => { target := t, depth := levelNames.length - 1 })

/-- Reads directives. Where there are none, errors are shown. -/
def readAll (t : Text) : List Directive :=
  match ((Text.splitOn ',' t).filter (· != [])).filterMap read? with
  | [] => [{ depth := 1 }]
  | directives => directives

/-- The directives of a process. -/
def ofProcess (vars : ProcessVariables) (isVerbose : Bool) : List Directive :=
  match (vars.value? "JOPI_LOG").bind Text.decodeUtf8? with
  | some t => readAll t
  | none =>
    readAll (if isVerbose then "jopi=debug,jopi_loader=debug" else "jopi=warn,jopi_loader=warn")

/-- The number of levels down to that of a note. -/
def depthOf (e : Event) : Nat :=
  match e.level with
  | .warn => 2
  | .debug => 4

/-- **Whether a note is shown.** -/
def shows (directives : List Directive) (e : Event) : Bool :=
  let about := directives.filter fun d => Text.startsWith e.target d.target
  let deciding := about.foldl
    (fun found d =>
      match found with
      | some best => if d.target.length < best.target.length then some best else some d
      | none => some d) none
  deciding.any fun d => depthOf e ≤ d.depth

/-- **Without directives of the process** the warnings are shown, or all notes. -/
theorem shows_ofProcess {vars : ProcessVariables} (h : vars.value? "JOPI_LOG" = none)
    (isVerbose : Bool) (e : Event) :
    shows (ofProcess vars isVerbose) e = (isVerbose || e.level == .warn) := by
  rw [ofProcess, h]
  cases isVerbose <;> cases e <;> rfl

end Directive

end ModuleHooks.CommandLine
