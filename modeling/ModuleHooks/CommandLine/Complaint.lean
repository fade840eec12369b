import ModuleHooks.CommandLine.Interface
/-!
# Complaints

What is wrong with a command line, and how it is told: the complaint, what may have been
meant, how the command is used, and where to find more.

A word that nobody knows may be a slip for one that is known. Two words are compared by
the characters that they share at nearly the same places, and by how many of these stand
in another order.
-/

namespace ModuleHooks.Similarity

/-- The first place at or after `i` where a character stands that is not used yet, in
front of `stop`. -/
def firstFree? (c : Char) (low stop : Nat) : Nat → List Char → List Bool → Option Nat
  | i, d :: ds, used :: us =>
    if i ≥ stop then none
    else if i ≥ low && d == c && !used then some i
    else firstFree? c low stop (i + 1) ds us
  | _, _, _ => none

/-- Which characters of two words are shared, at places that are no further apart than
some range. -/
def shared (range : Nat) (b : Text) : Nat → Text → List Bool → List Bool × List Bool
  | _, [], used => ([], used)
  | i, c :: r, used =>
    match firstFree? c (i - range) (i + range + 1) 0 b used with
    | some j =>
      let (rest, used) := shared range b (i + 1) r (used.set j true)
      (true :: rest, used)
    | none =>
      let (rest, used) := shared range b (i + 1) r used
      (false :: rest, used)

/-- The characters of a word that are marked. -/
def marked (t : Text) (marks : List Bool) : Text :=
  (t.zip marks).filterMap fun (c, m) => if m then some c else none

/-- **How similar two words are**, as a ratio between nought and one. -/
def ratio (a b : Text) : Nat × Nat :=
  if a.isEmpty && b.isEmpty then (1, 1)
  else
    let range := max a.length b.length / 2 - 1
    let (inA, inB) := shared range b 0 a (b.map fun _ => false)
    let common := marked a inA
    let swapped := ((common.zip (marked b inB)).filter fun (c, d) => c != d).length / 2
    let m := common.length
    if m = 0 then (0, 1)
    else
      (m * m * (a.length + b.length) + (m - swapped) * a.length * b.length,
        3 * a.length * b.length * m)

/-- Whether two words are similar enough to be taken for each other. -/
def areSimilar (a b : Text) : Bool :=
  let (num, den) := ratio a b
  10 * num > 7 * den

/-- Whether a word is no more similar to a second one than to a third. -/
def noCloser (word a b : Text) : Bool :=
  let (n, d) := ratio word a
  let (m, e) := ratio word b
  n * e ≤ m * d

/-- **The words that a word may be a slip for**, the closest one last. -/
def candidates (word : Text) (known : List Text) : List Text :=
  (known.filter (areSimilar word)).mergeSort (noCloser word)

end ModuleHooks.Similarity

namespace ModuleHooks.CommandLine

/-- What may have been meant. -/
inductive Hint where
  /-- A similar argument. -/
  | argument (name : Text)
  /-- Similar commands. -/
  | commands (names : List Text)
  /-- An argument of a command. -/
  | elsewhere (command name : Text)
  /-- A value that begins as an argument does. -/
  | asValue (word : Text)
  /-- A command, after the sign that only values follow. -/
  | command (name : Text)
  deriving DecidableEq, Repr

/-- A word in single quotes. -/
def quoted (t : Text) : Text := '\'' :: t ++ ['\'']

/-- The wording of a hint. -/
def Hint.message : Hint → Text
  | .argument n => "a similar argument exists: ".toList ++ quoted ('-' :: '-' :: n)
  | .commands [n] => "a similar subcommand exists: ".toList ++ quoted n
  | .commands ns => "some similar subcommands exist: ".toList ++ Text.join ", " (ns.map quoted)
  | .elsewhere c n => quoted (c ++ " --".toList ++ n) ++ " exists".toList
  | .asValue w =>
    "to pass ".toList ++ quoted w ++ " as a value, use ".toList ++ quoted ("-- ".toList ++ w)
  | .command n =>
    "subcommand ".toList ++ quoted n ++ " exists; to use it, remove the '--' before it".toList

/-- **What is wrong.** -/
inductive Complaint where
  /-- An argument that nobody knows. -/
  | unexpected (word : Text) (hint : Option Hint)
  /-- A command that nobody knows. -/
  | unknownCommand (word : Text) (hint : Option Hint)
  /-- An argument without its value. -/
  | noValue (a : Argument)
  /-- A value for an argument that takes none. -/
  | surplusValue (a : Argument) (value : Text)
  /-- An argument that was given before. -/
  | repeated (a : Argument)
  /-- An argument that has to be given. -/
  | missing (a : Argument)
  /-- No command. -/
  | noCommand
  deriving DecidableEq, Repr

namespace Complaint

/-- The wording of a complaint. -/
def message : Complaint → Text
  | .unexpected w _ => "unexpected argument ".toList ++ quoted w ++ " found".toList
  | .unknownCommand w _ => "unrecognized subcommand ".toList ++ quoted w
  | .noValue a => "a value is required for ".toList ++ quoted a.write ++ " but none was supplied".toList
  | .surplusValue a v =>
    "unexpected value ".toList ++ quoted v ++ " for ".toList ++ quoted a.write
      ++ " found; no more were expected".toList
  | .repeated a => "the argument ".toList ++ quoted a.write ++ " cannot be used multiple times".toList
  | .missing a => "the following required arguments were not provided:\n  ".toList ++ a.write
  | .noCommand =>
    quoted programName ++ " requires a subcommand but one was not provided\n  [subcommands: ".toList
      ++ Text.join ", " commandNames ++ [']']

/-- What may have been meant. -/
def hint? : Complaint → Option Hint
  | .unexpected _ h => h
  | .unknownCommand _ h => h
  | _ => none

/-- Whether the use of the command is shown. -/
def showsUsage : Complaint → Bool
  | .noValue _ => false
  | _ => true

/-- **The report of a complaint** about the use of a command, of which some arguments were
understood. -/
def report (e : Complaint) (c : Command) (used : List Argument) : Text :=
  "error: ".toList ++ e.message
    ++ (match e.hint? with
      | some h => "\n\n  tip: ".toList ++ h.message
      | none => [])
    ++ (if e.showsUsage then "\n\n".toList ++ c.usageLine used else [])
    ++ (if c.isHelp then [] else "\n\nFor more information, try '--help'.".toList) ++ ['\n']

end Complaint

end ModuleHooks.CommandLine
