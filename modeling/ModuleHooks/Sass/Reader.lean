import ModuleHooks.Css.Lexer
import ModuleHooks.Sass.Syntax
/-!
# Reading characters

A reading goes along the characters of a source. It keeps the place where it stands, so
that it can be put back and another reading tried, and it keeps what stands around: in
some surroundings the same characters mean something else.

A fault is told at one character, or from some character up to the one before the place
where the reading stands.
-/

namespace ModuleHooks.Sass

/-- **What is read**: characters with the stretch of a source they come from. -/
structure Feed where
  /-- The characters, with every line end as one character. -/
  chars : Array Char
  /-- Where they come from. -/
  span : Span
  /-- The characters do not stand in the source as they are; only the whole stretch is
  known. -/
  isMade : Bool
  /-- The notation. -/
  dialect : Dialect

/-- **Where a reading stands**, and what is around it. -/
structure Stance where
  /-- How many characters have been read. -/
  pos : Nat := 0
  /-- Round brackets are around the expression. -/
  inParens : Bool := false
  /-- No rule has been read that forbids the use of modules. -/
  mayUse : Bool := true
  /-- The body of a mixin is being read. -/
  inMixin : Bool := false
  /-- The body of a mixin takes a block. -/
  foundContent : Bool := false
  /-- A block for a mixin is being read. -/
  inContent : Bool := false
  /-- A style rule is around. -/
  inStyle : Bool := false
  /-- An at-rule that has no meaning here is around. -/
  inUnknown : Bool := false
  /-- A choice or a loop is around. -/
  inControl : Bool := false
  /-- The depth of the block, in the notation by indentation. -/
  depth : Nat := 0

/-- **A reading.** -/
abbrev Reader := ReaderT Feed (StateT Stance (Except Fault))

/-- One character for every line end. -/
def normalLines : Text → Text
  | '\r' :: '\n' :: r => '\n' :: normalLines r
  | '\r' :: r => '\n' :: normalLines r
  | '\x0c' :: r => '\n' :: normalLines r
  | c :: r => c :: normalLines r
  | [] => []

namespace Feed

/-- The characters of a whole source. -/
def ofSource (s : Source) (d : Dialect) : Feed :=
  ⟨(normalLines s.text).toArray, ⟨s, 0, s.text.length⟩, false, d⟩

/-- The characters of a text that was made from a stretch of a source. -/
def ofText (t : Text) (span : Span) (d : Dialect := .braces) : Feed :=
  ⟨(normalLines t).toArray, span, Text.utf8Length t > Text.utf8Length
      ((span.source.text.drop span.start).take (span.stop - span.start)), d⟩

/-- The place of a character; past the end, that of the last one. -/
def spanAt (f : Feed) (i : Nat) : Span :=
  if f.isMade then f.span
  else if f.chars.size = 0 then { f.span with stop := f.span.start }
  else
    let i := f.span.start + min i (f.chars.size - 1)
    { f.span with start := i, stop := i + 1 }

end Feed

namespace Reader

/-- A fault at a place. -/
def fail {α : Type} (message : Text) (span : Span) : Reader α := fun _ _ =>
  .error (.misplaced message span)

/-- The place of the next character. -/
def here : Reader Span := fun f s => .ok (f.spanAt s.pos, s)

/-- A fault at the next character. -/
def failHere {α : Type} (message : Text) : Reader α := fun f s =>
  .error (.misplaced message (f.spanAt s.pos))

/-- How many characters have been read. -/
def position : Reader Nat := fun _ s => .ok (s.pos, s)

/-- Goes to another character. -/
def seek (pos : Nat) : Reader Unit := fun _ s => .ok ((), { s with pos := pos })

/-- The stretch from a character up to the one before the next. -/
def spanFrom (start : Nat) : Reader Span := fun f s =>
  .ok ((f.spanAt start).join (f.spanAt (s.pos - 1)), s)

/-- A fault from a character on. -/
def failFrom {α : Type} (message : Text) (start : Nat) : Reader α := do
  fail message (← spanFrom start)

/-- The character that is `n` characters away. -/
def peekAt (n : Nat) : Reader (Option Char) := fun f s => .ok (f.chars[s.pos + n]?, s)

/-- The next character. -/
def peek : Reader (Option Char) := peekAt 0

/-- The character before the next one. -/
def previous : Reader (Option Char) := fun f s =>
  .ok (if s.pos = 0 then none else f.chars[s.pos - 1]?, s)

/-- Passes one character. -/
def skip : Reader Unit := fun f s =>
  .ok ((), if s.pos < f.chars.size then { s with pos := s.pos + 1 } else s)

/-- Whether the next character is this one. -/
def isNext (c : Char) : Reader Bool := return (← peek) == some c

/-- Whether nothing is left. -/
def isDone : Reader Bool := return (← peek).isNone

/-- Passes a character, if it is this one. -/
def scan (c : Char) : Reader Bool := do
  if ← isNext c then skip; return true else return false

/-- Passes a character, which has to be this one. -/
def expect (c : Char) : Reader Unit := do
  if ← scan c then return () else failHere ("expected \"".toList ++ [c] ++ "\".".toList)

/-- The text from a character up to the one before the next. -/
def textFrom (start : Nat) : Reader Text := fun f s =>
  .ok ((f.chars.extract start s.pos).toList, s)

/-- The text that a reading passes. -/
def textOf (r : Reader Unit) : Reader Text := do
  let start ← position
  r
  textFrom start

/-- The notation. -/
def dialect : Reader Dialect := fun f s => .ok (f.dialect, s)

/-- A second test, which is made only if the first one holds. -/
def onlyIf (isMet : Bool) (r : Reader Bool) : Reader Bool := if isMet then r else return false

/-- Whether the source has no code. -/
def isPlainCss : Reader Bool := return (← dialect) == .plain

/-- Whether blocks are made by indentation. -/
def isIndented : Reader Bool := return (← dialect) == .indented

/-- What a reading gives, or its fault; after a fault the reading has not moved. -/
def attempt {α : Type} (r : Reader α) : Reader (Except Fault α) := fun f s =>
  match r f s with
  | .ok (a, s) => .ok (.ok a, s)
  | .error e => .ok (.error e, s)

/-- A reading that does not move. -/
def ahead {α : Type} (r : Reader α) : Reader α := fun f s =>
  match r f s with
  | .ok (a, _) => .ok (a, s)
  | .error e => .error e

/-- A reading in other surroundings. -/
def within {α : Type} (change : Stance → Stance) (back : Stance → Stance → Stance)
    (r : Reader α) : Reader α := fun f s =>
  match r f (change s) with
  | .ok (a, t) => .ok (a, back s t)
  | .error e => .error e

/-- What one round of a repetition comes to. -/
inductive Round (σ β : Type) where
  | again (s : σ)
  | done (b : β)

/-- Repeats a step up to `n` times. -/
def iterateFor {σ β : Type} (step : σ → Reader (Round σ β)) : Nat → σ → Reader β
  | 0, _ => failHere "expected more input."
  | n + 1, s => do
    match ← step s with
    | .done b => return b
    | .again s => iterateFor step n s

/-- **Repeats a step until it is done.** No repetition has more rounds than some
multiple of the number of characters. -/
def iterate {σ β : Type} (step : σ → Reader (Round σ β)) (s : σ) : Reader β := fun f st =>
  iterateFor step (4 * f.chars.size + 64) s f st

/-- Passes characters while a test holds, and gives them. -/
def takeWhile (test : Char → Bool) : Reader Text := do
  textOf <| iterate (fun () => do
    match ← peek with
    | some c => if test c then skip; return .again () else return .done ()
    | none => return .done ()) ()

/-! ## White space and comments -/

/-- Whether a character is white space. -/
def isBlank (c : Char) : Bool := c == ' ' || c == '\t' || c == '\n' || c == '\r'

/-- Passes white space. In the notation by indentation, the end of a line ends more. -/
def blanks : Reader Unit := do
  if ← isIndented then let _ ← takeWhile fun c => c == ' ' || c == '\t'
  else let _ ← takeWhile isBlank

/-- Passes a comment that goes on until it is closed. -/
def loudComment : Reader Unit := do
  expect '/'
  expect '*'
  iterate (fun (star : Bool) => do
    match ← peek with
    | none => failHere "expected more input."
    | some c => do
      skip
      if star && c == '/' then return .done () else return .again (c == '*')) false

/-- Passes a comment that ends with its line. -/
def lineComment : Reader Unit := do
  if ← isPlainCss then
    let span ← here
    fail "Silent comments aren't allowed in plain CSS." { span with stop := span.start }
  else
    skip
    skip
    let _ ← takeWhile (· != '\n')

/-- Passes a comment, if there is one. -/
def comment : Reader Bool := do
  if ← isNext '/' then
    match ← peekAt 1 with
    | some '/' => lineComment; return true
    | some '*' => loudComment; return true
    | _ => return false
  else return false

/-- **Passes white space and comments.** -/
def whitespace : Reader Unit :=
  iterate (fun () => do
    blanks
    if ← comment then return .again () else return .done ()) ()

/-- White space has to stand here. -/
def expectWhitespace : Reader Unit := do
  let start ← position
  whitespace
  if (← position) == start then failHere "Expected whitespace."

/-! ## Names -/

/-- Whether a character begins a name. -/
def isNameStart (c : Char) : Bool := Css.Lexer.isNameStart c

/-- Whether a character goes on with a name. -/
def isNameChar (c : Char) : Bool := Css.Lexer.isNameChar c

/-- The value of hexadecimal digits that follow, up to six, and the white space that
ends them. -/
def hexEscape : Reader Nat := do
  let (value, _) ← iterate (fun ((value, n) : Nat × Nat) => do
    match n, (← peek).bind Text.hexValue? with
    | n + 1, some d => skip; return .again (value * 16 + d, n)
    | n, _ => return .done (value, n)) (0, 6)
  match ← peek with
  | some c => if isBlank c then skip
  | none => pure ()
  return value

/-- The text of an escaped character in a name: the character, if it can stand for
itself, or an escape. -/
def writeEscape (isStart : Bool) (c : Char) : Text :=
  let n := c.toNat
  if (isStart && isNameStart c) || (!isStart && isNameChar c) then [c]
  else if n ≤ 0x1F || n = 0x7F || (isStart && c.isDigit) then
    '\\' :: (if n > 0xF then [Nat.digitChar (n / 16)] else []) ++ [Nat.digitChar (n % 16), ' ']
  else ['\\', c]

/-- An escape in a name. -/
def escape (isStart : Bool) : Reader Text := do
  expect '\\'
  let span ← here
  match ← peek with
  | none => failHere "Expected expression."
  | some '\n' => fail "Expected escape sequence." span
  | some c =>
    if (Text.hexValue? c).isSome then
      let n ← hexEscape
      if (0xD800 ≤ n && n ≤ 0xDFFF) || n > 0x10FFFF then fail "Invalid Unicode code point." span
      else return writeEscape isStart (Char.ofNat n)
    else
      skip
      return writeEscape isStart c

/-- The rest of a name. -/
def nameRest (isUnit : Bool) : Reader Text := do
  let pieces ← iterate (fun (acc : List Text) => do
    match ← peek with
    | some '-' =>
      let next ← peekAt 1
      let stops := isUnit && (next.isNone || next == some '.' || next.any Char.isDigit)
      if stops then return .done acc
      else
        skip
        return .again (['-'] :: acc)
    | some '\\' => return .again ((← escape false) :: acc)
    | some c =>
      if isNameChar c then skip; return .again ([c] :: acc) else return .done acc
    | none => return .done acc) []
  return pieces.reverse.flatten

/-- **A name.** -/
def name (isUnit : Bool := false) : Reader Text := do
  let dash ← scan '-'
  if ← onlyIf dash (scan '-') then return '-' :: '-' :: (← nameRest isUnit)
  let first : Text ←
    match ← peek with
    | some '\\' => escape true
    | some c => if isNameStart c then skip; pure [c] else failHere "Expected identifier."
    | none => failHere "Expected identifier."
  return (if dash then ['-'] else []) ++ first ++ (← nameRest isUnit)

/-- Hyphens for underscores. -/
def normalName (t : Text) : Text := t.map fun c => if c = '_' then '-' else c

/-- Whether a name begins here. -/
def atName (n : Nat := 0) : Reader Bool := do
  match ← peekAt n with
  | some '-' =>
    match ← peekAt (n + 1) with
    | some c => return isNameStart c || c == '\\' || c == '-'
    | none => return false
  | some c => return isNameStart c || c == '\\'
  | none => return false

/-- Whether a name, maybe with code in it, begins here. -/
def atTemplateName : Reader Bool := do
  match ← peek with
  | some '#' => return (← peekAt 1) == some '\x7b'
  | some '-' =>
    match ← peekAt 1 with
    | some '#' => return (← peekAt 2) == some '\x7b'
    | some c => return isNameStart c || c == '\\' || c == '-'
    | none => return false
  | some c => return isNameStart c || c == '\\'
  | none => return false

/-- Passes the characters of a word as far as they stand here. -/
def scanWord (sameCase : Bool) : Text → Reader Bool
  | [] => return true
  | c :: r => do
    match ← peek with
    | some d =>
      if d == c || (!sameCase && d.toLower == c.toLower) then skip; scanWord sameCase r
      else return false
    | none => return false

/-- Whether a name goes on here. -/
def atNameRest : Reader Bool := return (← peek).any fun c => isNameChar c || c == '\\'

/-- Passes this name, if it stands here and does not go on. -/
def scanName (word : Text) (sameCase : Bool := false) : Reader Bool := do
  let start ← position
  let isWord ← onlyIf (← atName) (scanWord sameCase word)
  if isWord && !(← atNameRest) then return true
  else
    seek start
    return false

/-- Passes this name, which has to stand here. -/
def expectName (word : Text) : Reader Unit := do
  let start ← position
  if (← scanWord false word) && !(← atNameRest) then return ()
  else failFrom ("Expected \"".toList ++ word ++ "\".".toList) start

/-- The name of a variable, after its dollar sign. -/
def variableName : Reader Text := do
  expect '$'
  return normalName (← name)

/-- The character of an escape in a string. -/
def stringEscape : Reader Char := do
  expect '\\'
  match ← peek with
  | none => return '\uFFFD'
  | some '\n' => failHere "Expected escape sequence."
  | some c =>
    if (Text.hexValue? c).isSome then
      let n ← hexEscape
      if n = 0 || (0xD800 ≤ n && n ≤ 0xDFFF) || n ≥ 0x10FFFF then return '\uFFFD'
      else return Char.ofNat n
    else
      skip
      return c

/-- A string without code. -/
def string : Reader Text := do
  match ← peek with
  | some q =>
    if q == '"' || q == '\'' then
      skip
      iterate (fun (acc : Text) => do
        match ← peek with
        | none => failHere ("Expected ".toList ++ [q, '.'])
        | some '\n' => failHere ("Expected ".toList ++ [q, '.'])
        | some '\\' =>
          if (← peekAt 1) == some '\n' then
            skip
            skip
            return .again acc
          else return .again ((← stringEscape) :: acc)
        | some c =>
          skip
          if c == q then return .done acc.reverse else return .again (c :: acc)) []
    else
      skip
      failHere "Expected string."
  | none => failHere "Expected string."

end Reader

end ModuleHooks.Sass
