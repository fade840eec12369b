import ModuleHooks.Css.Value.Motion
import ModuleHooks.Css.Value.Paint
/-!
# Grammars of values

The definition of a custom property says in a string what its values look like: anything,
or one of some terms, each a kind of value or a word, once or repeated. A grammar is read
from such a string and reads values in turn. Of several terms the first one that reads a
value is meant.
-/

namespace ModuleHooks.Css

/-- **How often a term stands in a value.** -/
inductive Repetition where
  | once
  /-- Once or more, with white space between. -/
  | spaced
  /-- Once or more, with commas between. -/
  | listed
  deriving DecidableEq, Repr

/-- **A term of a grammar.** -/
structure GrammarTerm where
  /-- The name of a kind of value, or a word that stands for itself. -/
  name : Text
  isWord : Bool
  repetition : Repetition
  deriving DecidableEq, Repr

/-- **A grammar of values.** -/
inductive ValueGrammar where
  | any
  | oneOf (terms : List GrammarTerm)
  deriving DecidableEq, Repr

namespace GrammarTerm

open Value

/-- The kinds of values, and how they are read. -/
def kinds : List (String × ValueReading) :=
  [("length", Value.length), ("number", Value.number), ("percentage", Value.percentage),
    ("length-percentage", Value.lengthPercentage),
    ("string", plain do return writeString (← Reading.string)), ("color", Value.color),
    ("image", Value.image), ("url", Value.urlWritten), ("integer", Value.integer),
    ("angle", plain (Reading.angle false)), ("time", Value.time),
    ("resolution", plain Reading.resolution), ("transform-function", plain Value.transformOne),
    ("transform-list", Value.transform), ("custom-ident", Value.authorName)]

/-- Whether a character can begin a word. -/
def isWordStart (c : Char) : Bool := c.isAlpha || c.toNat ≥ 128 || c = '_'

/-- Whether a character can stand in a word. -/
def isWordPart (c : Char) : Bool := isWordStart c || c.isDigit || c = '-'

/-- Whether a character separates terms. -/
def isBlank (c : Char) : Bool := c = ' ' || c = '\t'

/-- A term without its repetition, and what follows it. -/
def front? (t : Text) : Option (GrammarTerm × Text) :=
  match Text.trimStart isBlank t with
  | '<' :: r =>
    match Text.splitFirst? ['>'] r with
    | some (name, r) =>
      let name := Text.lowerAscii name
      if kinds.any (·.1.toList == name) then some (⟨name, false, .once⟩, r) else none
    | none => none
  | c :: r =>
    if isWordStart c then
      some (⟨(c :: r).takeWhile isWordPart, true, .once⟩, (c :: r).dropWhile isWordPart)
    else none
  | [] => none

/-- A term at the front of a text, and what follows it. A list of transformations is
repeated as it is. -/
def ofFront? (t : Text) : Option (GrammarTerm × Text) :=
  match front? t with
  | none => none
  | some (term, r) =>
    if !term.isWord && term.name = ("transform-list" : Text) then some (term, r)
    else
      match r with
      | '+' :: r => some ({ term with repetition := .spaced }, r)
      | '#' :: r => some ({ term with repetition := .listed }, r)
      | r => some (term, r)

/-- A term, written. -/
def write (t : GrammarTerm) : Text :=
  (if t.isWord then t.name else '<' :: t.name ++ ['>']) ++
    match t.repetition with
    | .once => []
    | .spaced => ['+']
    | .listed => ['#']

/-- One value of a term. -/
def one (t : GrammarTerm) : ValueReading :=
  if t.isWord then
    Reading.expect fun c =>
      match Stream.identOf? c with
      | some n => if n = t.name then some (Written.text (writeIdent n)) else none
      | none => none
  else
    match kinds.find? (·.1.toList == t.name) with
    | some (_, r) => r
    | none => Reading.failHere .invalidValue

/-- Values up to the end. The first argument bounds their number. -/
def spacedUpTo (r : ValueReading) : Nat → Reading (List Written)
  | 0 => Reading.failHere .tooDeep
  | n + 1 => do
    let w ← r
    if ← Reading.isDone then return [w] else return w :: (← spacedUpTo r n)

/-- Values between commas up to the end. The first argument bounds their number. -/
def listedUpTo (r : ValueReading) : Nat → Reading (List Written)
  | 0 => Reading.failHere .tooDeep
  | n + 1 => do
    let w ← r
    if ← Reading.isDone then return [w]
    else
      Reading.comma
      return w :: (← listedUpTo r n)

/-- **A value of a term**, repeated as the term says. -/
def reading (t : GrammarTerm) : ValueReading := do
  let bound := (← get).rest.length + 1
  match t.repetition with
  | .once => t.one
  | .spaced => return Written.joined " " (← spacedUpTo t.one bound)
  | .listed => return Written.joined ", " (← listedUpTo t.one bound)

end GrammarTerm

namespace ValueGrammar

/-- Terms with bars between them. The first argument bounds their number. -/
def termsOf? : Nat → Text → Option (List GrammarTerm)
  | 0, _ => none
  | n + 1, t =>
    match GrammarTerm.ofFront? t with
    | none => none
    | some (term, r) =>
      match Text.trimStart GrammarTerm.isBlank r with
      | [] => some [term]
      | '|' :: r => (termsOf? n r).map (term :: ·)
      | _ => none

/-- **The grammar that a text describes.** -/
def ofText? (t : Text) : Option ValueGrammar :=
  let t := Text.trim GrammarTerm.isBlank t
  if t = ['*'] then some .any else (termsOf? (t.length + 1) t).map .oneOf

/-- **A grammar, written** as a string. -/
def write : ValueGrammar → Text
  | .any => ['"', '*', '"']
  | .oneOf terms => '"' :: Text.join " | " (terms.map GrammarTerm.write) ++ ['"']

/-- **A value of a grammar.** -/
def reading : ValueGrammar → ValueReading
  | .any => do return Written.text (← Reading.tokenList)
  | .oneOf terms => fun s =>
    match terms.findSome? fun t =>
        match t.reading s with
        | .ok x => some x
        | .error _ => none with
    | some x => .ok x
    | none => (do Reading.unexpected (← Reading.next) : ValueReading) s

end ValueGrammar

end ModuleHooks.Css
