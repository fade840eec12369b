import ModuleHooks.Sass.Reader
/-!
# Reading templates

Selectors, names, queries and the values that are no expressions are read as templates:
the text is kept as it stands, but expressions may stand in it. The reading of
expressions is a parameter here, because expressions hold templates again.
-/

namespace ModuleHooks.Sass

/-- **How an expression is read.** -/
structure Ask where
  /-- Ends the expression where it holds; it may pass what it looked for. -/
  stop : Reader Bool := return false
  /-- The expression is a list in square brackets. -/
  isBracketed : Bool := false
  /-- A single equals sign is an operator. -/
  singleEquals : Bool := false

/-- A reading of expressions. -/
abbrev ExprReader := Ask → Reader Placed

/-- Pieces put together, with one text where several texts meet. -/
def Template.ofPieces : List Part → Template
  | [] => []
  | .code e s :: r => .code e s :: ofPieces r
  | .text t :: r =>
    match ofPieces r with
    | .text u :: r => .text (t ++ u) :: r
    | r => if t = [] then r else .text t :: r

/-- The quote that needs the fewest escapes around a text. -/
def bestQuote (t : Text) : Char :=
  if List.elem '\'' t then '"' else if List.elem '"' t then '\'' else '"'

/-- A text as it stands between quotes. -/
def quoteInner (quote : Char) : Text → Text
  | [] => []
  | '\n' :: r =>
    let gap : Text :=
      match r with
      | c :: _ => if Reader.isBlank c || (Text.hexValue? c).isSome then [' '] else []
      | [] => []
    '\\' :: 'a' :: gap ++ quoteInner quote r
  | c :: r => (if c == quote || c == '\\' then ['\\', c] else [c]) ++ quoteInner quote r

/-- A quoted template as a template that has the quotes in it. -/
def Template.quoted (t : Template) : Template :=
  let texts := t.flatMap fun
    | .text s => s
    | .code .. => []
  let q := bestQuote texts
  ofPieces <| .text [q] :: t.map (fun
    | .text s => .text (quoteInner q s)
    | p => p) ++ [.text [q]]

namespace Reader

/-- An expression between curly brackets, after a hash. -/
def interpolation (g : ExprReader) : Reader Part := do
  let start ← position
  expect '#'
  expect '\x7b'
  whitespace
  let (e, span) ← g {}
  expect '\x7d'
  if ← isPlainCss then failFrom "Interpolation isn't allowed in plain CSS." start
  else return .code e span

/-- Whether code stands here. -/
def atCode : Reader Bool := return (← isNext '#') && (← peekAt 1) == some '\x7b'

/-- The rest of a name with code in it. -/
def templateNameRest (g : ExprReader) : Reader (List Part) := do
  let parts ← iterate (fun (acc : List Part) => do
    match ← peek with
    | some '\\' => return .again (.text (← escape false) :: acc)
    | some '#' =>
      if ← atCode then return .again ((← interpolation g) :: acc) else return .done acc
    | some c =>
      if isNameChar c then skip; return .again (.text [c] :: acc) else return .done acc
    | none => return .done acc) []
  return parts.reverse

/-- **A name with code in it.** -/
def templateName (g : ExprReader) : Reader Template := do
  let dash ← scan '-'
  if ← onlyIf dash (scan '-') then
    return Template.ofPieces (.text "--" :: (← templateNameRest g))
  let first : Part ←
    match ← peek with
    | some '\\' => pure (.text (← escape true))
    | some '#' =>
      if ← atCode then interpolation g else failHere "Expected identifier."
    | some c =>
      if isNameStart c then skip; pure (.text [c]) else failHere "Expected identifier."
    | none => failHere "Expected identifier."
  let rest ← templateNameRest g
  return Template.ofPieces (.text (if dash then ['-'] else []) :: first :: rest)

/-- **A string with code in it.** -/
def templateString (g : ExprReader) : Reader Template := do
  match ← peek with
  | some q =>
    if q == '"' || q == '\'' then
      skip
      let parts ← iterate (fun (acc : List Part) => do
        match ← peek with
        | none => failHere ("Expected ".toList ++ [q, '.'])
        | some '\n' => failHere ("Expected ".toList ++ [q, '.'])
        | some '\\' =>
          if (← peekAt 1) == some '\n' then
            skip
            skip
            return .again acc
          else return .again (.text [← stringEscape] :: acc)
        | some c =>
          if c == '#' && (← atCode) then return .again ((← interpolation g) :: acc)
          else
            skip
            if c == q then return .done acc else return .again (.text [c] :: acc)) []
      return Template.ofPieces parts.reverse
    else failHere "Expected string."
  | none => failHere "Expected string."

/-- The rest of an address after its name, if it is one that is not in quotes. -/
def urlContents? (g : ExprReader) (function : Text) : Reader (Option Template) := do
  let start ← position
  if !(← scan '(') then return none
  blanks
  let parts ← iterate (fun (acc : List Part) => do
    match ← peek with
    | none => return .done none
    | some '\\' => return .again (.text (← escape false) :: acc)
    | some '#' =>
      if ← atCode then return .again ((← interpolation g) :: acc)
      else
        skip
        return .again (.text ['#'] :: acc)
    | some ')' =>
      skip
      return .done (some (.text [')'] :: acc))
    | some c =>
      if c == '!' || c == '%' || c == '&' || ('*' ≤ c && c ≤ '~') || c.toNat ≥ 128 then
        skip
        return .again (.text [c] :: acc)
      else if isBlank c then
        blanks
        if ← isNext ')' then return .again acc else return .done none
      else return .done none) []
  match parts with
  | some parts => return some (Template.ofPieces (.text (function ++ ['(']) :: parts.reverse))
  | none =>
    seek start
    return none

/-- An address, if one stands here; else one character. -/
def urlOrChar (g : ExprReader) (c : Char) : Reader (List Part) := do
  let start ← position
  if ← scanName "url" then
    match ← urlContents? g "url" with
    | some t => return t
    | none =>
      seek start
      skip
      return [.text [c]]
  else
    skip
    return [.text [c]]

/-- The closing bracket of an opening one. -/
def closing (c : Char) : Char :=
  if c = '(' then ')' else if c = '[' then ']' else '\x7d'

/-- Where a value that is no expression ends. -/
structure ValueEnds where
  /-- A semicolon does not end it. -/
  allowsSemicolon : Bool := false
  /-- It may be empty. -/
  allowsEmpty : Bool := false
  /-- A colon does not end it. -/
  allowsColon : Bool := true

/-- **A value that is no expression**, up to its end outside of brackets. -/
def declarationValue (g : ExprReader) (ends : ValueEnds) : Reader Template := do
  let (parts, brackets) ← iterate (fun ((acc, brackets, fresh) : List Part × List Char × Bool) => do
    let add (ps : List Part) : Round (List Part × List Char × Bool) (List Part × List Char) :=
      .again (ps.reverse ++ acc, brackets, false)
    match ← peek with
    | none => return .done (acc, brackets)
    | some c =>
      if c == '\\' then return add [.text (← escape true)]
      else if c == '"' || c == '\'' then return add (Template.quoted (← templateString g))
      else if c == '/' then
        if (← peekAt 1) == some '*' then return add [.text (← textOf loudComment)]
        else
          skip
          return add [.text ['/']]
      else if c == '#' then
        if ← atCode then return add (← templateName g)
        else
          skip
          return add [.text ['#']]
      else if c == ' ' || c == '\t' then
        let next ← peekAt 1
        skip
        if fresh || !(next.any isBlank) then return .again (.text [c] :: acc, brackets, fresh)
        else return .again (acc, brackets, fresh)
      else if c == '\n' then
        if ← isIndented then return .done (acc, brackets)
        else
          let before ← previous
          skip
          return .again (if before == some '\n' then acc else .text ['\n'] :: acc, brackets, true)
      else if c == '(' || c == '[' || c == '\x7b' then
        skip
        return .again (.text [c] :: acc, closing c :: brackets, false)
      else if c == ')' || c == ']' || c == '\x7d' then
        match brackets with
        | [] => return .done (acc, brackets)
        | b :: rest =>
          expect b
          return .again (.text [c] :: acc, rest, false)
      else if c == ';' && !ends.allowsSemicolon && brackets.isEmpty then
        return .done (acc, brackets)
      else if c == ':' && !ends.allowsColon && brackets.isEmpty then
        return .done (acc, brackets)
      else if c == 'u' || c == 'U' then return add (← urlOrChar g c)
      else if ← atName then return add [.text (← name)]
      else
        skip
        return add [.text [c]]) ([], [], false)
  match brackets with
  | b :: _ => expect b
  | [] => pure ()
  let t := Template.ofPieces parts.reverse
  if !ends.allowsEmpty && t.isEmpty then failHere "Expected token."
  else return t

/-- **Anything up to the end of a head**: to an exclamation mark, a semicolon or a curly
bracket. -/
def anyValue (g : ExprReader) (omitComments : Bool := false) : Reader Template := do
  let parts ← iterate (fun (acc : List Part) => do
    let add (ps : List Part) : Round (List Part) (List Part) := .again (ps.reverse ++ acc)
    match ← peek with
    | none => return .done acc
    | some c =>
      if c == '\\' then
        skip
        match ← peek with
        | some d =>
          skip
          return add [.text [c, d]]
        | none => failHere "expected more input."
      else if c == '"' || c == '\'' then return add (Template.quoted (← templateString g))
      else if c == '/' then
        let start ← position
        if ← comment then
          if omitComments then return .again acc else return add [.text (← textFrom start)]
        else
          skip
          return add [.text ['/']]
      else if c == '#' then
        if ← atCode then return add (← templateName g)
        else
          skip
          return add [.text ['#']]
      else if c == '\n' then
        if ← isIndented then return .done acc
        else
          skip
          return add [.text [c]]
      else if c == '!' || c == ';' || c == '\x7b' || c == '\x7d' then return .done acc
      else if c == 'u' || c == 'U' then return add (← urlOrChar g c)
      else if ← atName then return add [.text (← name)]
      else
        skip
        return add [.text [c]]) []
  return Template.ofPieces parts.reverse

end Reader

end ModuleHooks.Sass
