import ModuleHooks.Declarations
/-!
# What can be said on the command line

The program has commands; each of them takes arguments by name and at most one by its
place. Names may be given to the program or to the command where they mean the same
thing.
-/

namespace ModuleHooks.CommandLine

/-- What an argument does. -/
inductive ArgumentKind where
  /-- It takes a value. An empty one is refused unless it is said to be fine. -/
  | value (label : Text) (mayBeEmpty : Bool)
  /-- It stands for itself. -/
  | switch
  /-- It asks for help. -/
  | help
  /-- It asks for the version. -/
  | version
  deriving DecidableEq, Repr

/-- **An argument**, given by its name or, without one, by its place. -/
structure Argument where
  /-- The long name. -/
  name : Option Text
  /-- The short name. -/
  short : Option Char := none
  /-- What it does. -/
  kind : ArgumentKind
  /-- What is said about it. -/
  about : Text
  deriving DecidableEq, Repr

namespace Argument

/-- The text that stands for the value. -/
def label? (a : Argument) : Option Text :=
  match a.kind with
  | .value l _ => some ('<' :: l ++ ['>'])
  | _ => none

/-- The argument as it is written. -/
def write (a : Argument) : Text :=
  match a.name, a.label? with
  | some n, some l => '-' :: '-' :: n ++ ' ' :: l
  | some n, none => '-' :: '-' :: n
  | none, l => l.getD []

/-- The argument with both of its names, as a list shows it. -/
def entry (a : Argument) : Text :=
  match a.name with
  | none => a.write
  | some _ =>
    (match a.short with
      | some c => ['-', c, ',', ' ']
      | none => List.replicate 4 ' ') ++ a.write

end Argument

/-- **A command.** -/
structure Command where
  /-- The name. -/
  name : Text
  /-- What is said about it. -/
  about : Text
  /-- The argument by place. -/
  operand : Option Argument := none
  /-- The arguments by name, in the order in which they are listed. -/
  options : List Argument := []
  deriving DecidableEq, Repr

/-! ## The interface -/

/-- The configuration file. -/
def configOption : Argument :=
  { name := some "config", short := some 'c', kind := .value "CONFIG" false
    about := "Configuration file, instead of the layered project configuration" }

/-- More notes. -/
def verboseOption : Argument :=
  { name := some "verbose", kind := .switch, about := "Enable verbose logging" }

/-- The help. -/
def helpOption : Argument :=
  { name := some "help", short := some 'h', kind := .help, about := "Print help" }

/-- The version. -/
def versionOption : Argument :=
  { name := some "version", short := some 'V', kind := .version, about := "Print version" }

/-- The importing file. -/
def parentOption : Argument :=
  { name := some "parent", short := some 'p', kind := .value "PARENT" false
    about := "Importing file (defaults to a module in the current directory)" }

/-- The file that the declarations are written to. -/
def outOption : Argument :=
  { name := some "out", short := some 'o', kind := .value "OUT" false
    about := "Write the declarations to this file instead of stdout" }

/-- The stylesheet. -/
def fileOperand : Argument :=
  { name := none, kind := .value "FILE" false, about := "Stylesheet to compile" }

/-- The specifier. -/
def specifierOperand : Argument :=
  { name := none, kind := .value "SPECIFIER" true
    about := "Specifier as written in the import statement" }

/-- The name of the program. -/
def programName : Text := "jopi"

/-- The program before any command. -/
def program : Command :=
  { name := programName, about := "Stylesheet, asset and import-fallback hooks for JavaScript hosts"
    options := [configOption, verboseOption, helpOption, versionOption] }

/-- Compiles a stylesheet. -/
def compileCommand : Command :=
  { name := "compile", about := "Compile a stylesheet and print the generated module"
    operand := some fileOperand, options := [configOption, verboseOption, helpOption] }

/-- Resolves a specifier. -/
def resolveCommand : Command :=
  { name := "resolve", about := "Resolve an import specifier", operand := some specifierOperand
    options := [configOption, parentOption, verboseOption, helpOption] }

/-- Loads what a specifier leads to. -/
def loadCommand : Command :=
  { name := "load", about := "Resolve then load an import specifier and print its source"
    operand := some specifierOperand
    options := [configOption, parentOption, verboseOption, helpOption] }

/-- Prints the declarations. -/
def typesCommand : Command :=
  { name := "types", about := "Print the TypeScript declarations for stylesheet imports"
    options := [configOption, outOption, verboseOption, helpOption] }

/-- The commands, in the order in which they are listed. -/
def commands : List Command := [compileCommand, resolveCommand, loadCommand, typesCommand]

/-- Shows the help of a command. It takes words of its own. -/
def helpCommand : Command :=
  { name := "help", about := "Print this message or the help of the given subcommand(s)" }

/-- The names of all commands. -/
def commandNames : List Text := (commands ++ [helpCommand]).map Command.name

/-- The command of a name. -/
def command? (name : Text) : Option Command :=
  (commands ++ [helpCommand]).find? fun c => c.name == name

namespace Command

/-- Whether a command is the program itself. -/
def isProgram (c : Command) : Bool := c.name == programName

/-- Whether a command is the one that shows help. -/
def isHelp (c : Command) : Bool := c.name == helpCommand.name

/-- The words that call a command. -/
def path (c : Command) : Text :=
  if c.isProgram then programName else programName ++ ' ' :: c.name

/-- The argument by name of a long name. -/
def option? (c : Command) (name : Text) : Option Argument := c.options.find? fun a => a.name == some name

/-- The argument by name of a short name. -/
def shortOption? (c : Command) (name : Char) : Option Argument :=
  c.options.find? fun a => a.short == some name

/-- The long names, first those of the command's own. -/
def longNames (c : Command) : List Text :=
  let isOwn (a : Argument) : Bool := a == parentOption || a == outOption
  (c.options.filter isOwn ++ c.options.filter fun a => !isOwn a).filterMap Argument.name

/-! ## Help -/

/-- The text after the word `Usage`. Arguments that were used are named; without such,
all of them are meant. -/
def usage (c : Command) (used : List Argument) : Text :=
  let options : List Text :=
    if c.isHelp then []
    else if used.isEmpty then ["[OPTIONS]"]
    else (used.filter fun a => a.name.isSome).map Argument.write
  let operand : List Text :=
    if c.isHelp then ["[COMMAND]..."] else (c.operand.map Argument.write).toList
  let rest : List Text := if c.isProgram then ["<COMMAND>"] else []
  Text.join [' '] (c.path :: options ++ operand ++ rest)

/-- The line that begins with the word `Usage`. -/
def usageLine (c : Command) (used : List Argument) : Text := "Usage: ".toList ++ c.usage used

/-- Entries below a title, with what is said about them in a column of its own. -/
def listing (title : Text) (entries : List (Text × Text)) : Text :=
  let width := (entries.map (·.1.length)).foldl max 0
  let line (e : Text × Text) : Text :=
    ' ' :: ' ' :: e.1 ++ List.replicate (width + 2 - e.1.length) ' ' ++ e.2
  Text.join ['\n'] (title :: entries.map line) ++ ['\n']

/-- **The help of a command.** -/
def help (c : Command) : Text :=
  let operand : List (Text × Text) :=
    if c.isHelp then [("[COMMAND]...", "Print help for the subcommand(s)")]
    else (c.operand.map fun a => (a.write, a.about)).toList
  let sections : List Text :=
    (if c.isProgram then
      [listing "Commands:" ((commands ++ [helpCommand]).map fun c => (c.name, c.about))] else [])
      ++ (if operand.isEmpty then [] else [listing "Arguments:" operand])
      ++ (if c.options.isEmpty then []
        else [listing "Options:" (c.options.map fun a => (a.entry, a.about))])
  Text.join ['\n'] ([c.about ++ ['\n'], c.usageLine [] ++ ['\n']] ++ sections)

end Command

end ModuleHooks.CommandLine
