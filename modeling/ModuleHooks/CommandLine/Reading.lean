import ModuleHooks.CommandLine.Complaint
import ModuleHooks.Path.Basic
/-!
# Reading a command line

The words are read one by one. The values of an argument are taken in when the next
argument is there or when nothing is left, so an unknown argument is complained about
before the value in front of it.
-/

namespace ModuleHooks.CommandLine

/-- **Why nothing is run.** -/
inductive Stop where
  /-- The help of a command was asked for. -/
  | help (c : Command)
  /-- Nothing was asked for. -/
  | nothingAsked
  /-- The version was asked for. -/
  | version
  /-- Something is wrong with the use of a command, of which some arguments were
  understood. -/
  | refused (e : Complaint) (c : Command) (used : List Argument)
  deriving DecidableEq, Repr

/-- **What has been read of the use of a command.** -/
structure Progress where
  /-- The command. -/
  command : Command
  /-- The arguments that were taken in, with their values, in order. -/
  taken : List (Argument × Option Text) := []
  /-- An argument that was not taken in yet, with its value if that was read. -/
  pending : Option (Argument × Option Text) := none
  /-- The next word is a value, whatever it is. -/
  awaitsValue : Bool := false
  /-- Only values follow. -/
  onlyValues : Bool := false
  /-- The argument by place was read. -/
  hasOperand : Bool := false
  deriving Repr

namespace Progress

/-- The arguments that were taken in. -/
def used (p : Progress) : List Argument := p.taken.map (·.1)

/-- The value of an argument. -/
def value? (p : Progress) (a : Argument) : Option Text :=
  (p.taken.find? fun t => t.1 == a).bind (·.2)

/-- Complains about the use of the command. -/
def refuse {α : Type} (p : Progress) (e : Complaint) (used : List Argument := []) : Except Stop α :=
  .error (.refused e p.command used)

/-- **Takes an argument in**, with its value if it has one. -/
def take (p : Progress) (a : Argument) (value : Option Text) : Progress × Except Stop Unit :=
  let needsValue := a.label?.isSome
  if needsValue && value.isNone then (p, p.refuse (.noValue a))
  else if a.name.isSome && List.elem a p.used then (p, p.refuse (.repeated a))
  else
    let next := { p with taken := p.taken ++ [(a, value)] }
    match a.kind, value with
    | .value _ false, some [] => (next, p.refuse (.noValue a))
    | _, _ => (next, .ok ())

/-- Takes the argument in that was read before, whether or not it is right. -/
def settleAnyway (p : Progress) : Progress :=
  match p.pending with
  | none => p
  | some (a, v) => { (take { p with pending := none, awaitsValue := false } a v).1 with pending := none }

/-- **Takes the argument in that was read before.** -/
def settle (p : Progress) : Except Stop Progress := do
  match p.pending with
  | none => return p
  | some (a, v) =>
    let (next, result) := take { p with pending := none, awaitsValue := false } a v
    result
    return next

/-- Takes an argument in after the one that was read before. -/
def react (p : Progress) (a : Argument) (value : Option Text) : Except Stop Progress := do
  let p ← p.settle
  match a.kind with
  | .help => throw (.help p.command)
  | .version => throw .version
  | _ =>
    let (next, result) := p.take a value
    result
    return next

/-- An argument whose value is the next word. -/
def await (p : Progress) (a : Argument) : Except Stop Progress := do
  let p ← p.settle
  return { p with pending := some (a, none), awaitsValue := true }

/-- A hint for a word that would do as a value. -/
def asValue? (p : Progress) (word : Text) : Option Hint :=
  if p.command.operand.isSome then some (.asValue word) else none

/-- Complains about a long name that nobody knows, in front of some words. -/
def refuseLong {α : Type} (p : Progress) (name : Text) (rest : List Text) : Except Stop α :=
  let p := p.settleAnyway
  let word := '-' :: '-' :: name
  match (Similarity.candidates name p.command.longNames).getLast? with
  | some n =>
    let meant := (p.command.option? n).toList.filter fun a => !List.elem a p.used
    p.refuse (.unexpected word (some (.argument n))) (p.used ++ meant)
  | none =>
    let known := if p.command.isProgram then commands else []
    let elsewhere := rest.findSome? fun w =>
      (known.find? fun c => c.name == w).bind fun c =>
        ((Similarity.candidates name c.longNames).getLast?).map fun n => Hint.elsewhere c.name n
    p.refuse (.unexpected word (elsewhere.or (p.asValue? word))) p.used

/-- A word that begins with two hyphens. -/
def long (p : Progress) (word : Text) (rest : List Text) : Except Stop Progress :=
  let (name, value) :=
    match Text.splitFirst? "=" (word.drop 2) with
    | some (n, v) => (n, some v)
    | none => (word.drop 2, none)
  match p.command.option? name with
  | none => p.refuseLong name rest
  | some a =>
    if a.label?.isSome then
      match value with
      | some v => p.react a (some v)
      | none => p.await a
    else
      match value with
      | some v =>
        p.refuse (.surplusValue a v) ((p.used.filter fun b => b.name.isSome && b != a) ++ [a])
      | none => p.react a none

/-- Short names after one hyphen. -/
def shorts (p : Progress) : List Char → Except Stop Progress
  | [] => .ok p
  | c :: r => do
    match p.command.shortOption? c with
    | none => p.settleAnyway.refuse (.unexpected ['-', c] (p.asValue? ['-', c]))
    | some a =>
      if a.label?.isSome then
        match r with
        | [] => p.await a
        | '=' :: v => p.react a (some v)
        | v => p.react a (some v)
      else
        let p ← p.react a none
        shorts p r

/-- A word that is a value by its place. -/
def operand (p : Progress) (word : Text) : Except Stop Progress := do
  match p.command.operand with
  | some a =>
    if p.hasOperand then p.settleAnyway.refuse (.unexpected word none)
    else
      let p ← p.settle
      return { p with pending := some (a, some word), hasOperand := true }
  | none =>
    if !p.command.isProgram then p.refuse (.unexpected word none)
    else if p.onlyValues && List.elem word commandNames then
      p.refuse (.unexpected word (some (.command word)))
    else
      match Similarity.candidates word commandNames with
      | [] => p.refuse (.unknownCommand word none)
      | names => p.refuse (.unknownCommand word (some (.commands names)))

/-- **Reads one word**, in front of some others. -/
def step (p : Progress) (word : Text) (rest : List Text) : Except Stop Progress :=
  if p.onlyValues then p.operand word
  else if word = ("--" : Text) then .ok { p with onlyValues := true }
  else if Text.startsWith word "--" then p.long word rest
  else if Text.startsWith word "-" && word.length > 1 then p.shorts (word.drop 1)
  else if p.awaitsValue then
    .ok { p with pending := p.pending.map fun (a, _) => (a, some word), awaitsValue := false }
  else p.operand word

/-- Reads all words of a command. -/
def steps (p : Progress) : List Text → Except Stop Progress
  | [] => .ok p
  | w :: r => do
    let p ← p.step w r
    p.steps r

/-- What was read of a command, with all that it needs. -/
def finish (p : Progress) : Except Stop Progress := do
  let p ← p.settle
  match p.command.operand with
  | some a => if List.elem a p.used then return p else p.refuse (.missing a) (p.used ++ [a])
  | none => return p

end Progress

/-- The help that some words ask for. -/
def helpFor (c : Command) : List Text → Stop
  | [] => .help c
  | w :: r =>
    match (if c.isProgram then command? w else none) with
    | some inner => helpFor inner r
    | none => .refused (.unknownCommand w none) c []

/-- **Reads a command line**: the arguments of the program, and the use of a command. -/
def readWords (p : Progress) : List Text → Except Stop (Progress × Progress)
  | [] => do
    let p ← p.settle
    if p.taken.isEmpty then throw .nothingAsked else p.refuse .noCommand
  | w :: r => do
    let isFree := !p.onlyValues && !p.awaitsValue
    match (if isFree then command? w else none) with
    | some c =>
      if c.isHelp then throw (helpFor program r)
      else
        let inner ← Progress.steps { command := c } r
        let inner ← inner.finish
        let p ← p.settle
        return (p, inner)
    | none =>
      let p ← p.step w r
      readWords p r

/-! ## Requests -/

/-- What a command is asked to do. -/
inductive Task where
  | compile (file : Path)
  | resolve (specifier : Text) (parent : Option Path)
  | load (specifier : Text) (parent : Option Path)
  | types (out : Option Path)
  deriving DecidableEq, Repr

/-- **What a command line asks for.** -/
structure Request where
  /-- The configuration file. -/
  config : Option Path
  /-- Notes are wanted. -/
  isVerbose : Bool
  /-- What is to be done. -/
  task : Task
  deriving DecidableEq, Repr

/-- **Reads a command line.** What is given to the command wins over what is given to the
program. -/
def Request.read (words : List Text) : Except Stop Request := do
  let (outer, inner) ← readWords { command := program } words
  let operand := (inner.command.operand.bind inner.value?).getD []
  let parent := inner.value? parentOption
  let task : Task :=
    if inner.command = compileCommand then .compile operand
    else if inner.command = resolveCommand then .resolve operand parent
    else if inner.command = loadCommand then .load operand parent
    else .types (inner.value? outOption)
  return {
    config := (inner.value? configOption).or (outer.value? configOption)
    isVerbose := List.elem verboseOption (inner.used ++ outer.used)
    task }

end ModuleHooks.CommandLine
