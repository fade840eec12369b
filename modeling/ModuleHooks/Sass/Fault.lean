import ModuleHooks.FileSystem.Basic
/-!
# Faults of a style sheet

What is wrong with a style sheet is told with the place where it is wrong. A place is a
stretch of a source; the report shows its first line and marks the columns between its
two ends.
-/

namespace ModuleHooks.Sass

/-- **A source**: a text with the path it was read from. -/
structure Source where
  /-- Where the text was read from. -/
  path : Path
  /-- The text, as it stands in the file. -/
  text : Text
  deriving Inhabited

/-- **A stretch of a source**, from one character up to another one. -/
structure Span where
  /-- The source. -/
  source : Source
  /-- How many characters stand before the stretch. -/
  start : Nat
  /-- How many characters stand before what follows the stretch. -/
  stop : Nat
  deriving Inhabited

namespace Span

/-- The smallest stretch that holds two of them. -/
def join (a b : Span) : Span := ⟨a.source, min a.start b.start, max a.stop b.stop⟩

/-- The empty stretch at the front of a source. -/
def front (s : Source) : Span := ⟨s, 0, 0⟩

end Span

/-- The line and the column after some characters of a text, both from nought. -/
def lineAndColumn : Nat → Text → Nat × Nat → Nat × Nat
  | 0, _, x => x
  | _ + 1, [], x => x
  | n + 1, c :: r, (line, column) =>
    lineAndColumn n r (if c = '\n' then (line + 1, 0) else (line, column + 1))

/-- **What is wrong.** -/
inductive Fault where
  /-- Something is wrong at a place. -/
  | misplaced (message : Text) (span : Span)
  /-- A file cannot be read. -/
  | unreadable (why : SystemError)
  /-- A file holds no text. -/
  | notText

namespace Fault

/-- The lines that show a place. -/
def excerpt (span : Span) : Text :=
  let text := span.source.text
  let (line, column) := lineAndColumn span.start text (0, 0)
  let (_, finish) := lineAndColumn span.stop text (0, 0)
  let shown := ((Text.splitOn '\n' text).drop line).headD []
  let shown := Text.trimEnd (fun c => c == '\n' || c == '\r') shown
  let number := Text.ofNat (line + 1)
  let margin := List.replicate (number.length + 1) ' '
  margin ++ "╷\n".toList ++ number ++ " │ ".toList ++ shown ++ ['\n'] ++ margin ++ "│ ".toList
    ++ List.replicate column ' '
    ++ List.replicate (max finish column - min finish column) '^'
    ++ ['\n'] ++ margin ++ "╵\n".toList
    ++ "./".toList ++ span.source.path ++ [':'] ++ number ++ [':'] ++ Text.ofNat (column + 1)
    ++ ['\n']

/-- **The report of a fault.** -/
def report : Fault → Text
  | .misplaced message span => ("Error: " : Text) ++ message ++ ['\n'] ++ excerpt span
  | .unreadable why => ("Error: " : Text) ++ why.message ++ ['\n']
  | .notText => "Error: Invalid UTF-8.\n"

end Fault

end ModuleHooks.Sass
