import ModuleHooks.Sass.Query
/-!
# Blocks

How statements follow each other, in each of the notations: between curly brackets with
semicolons after them, or below each other with the same white space before them.
-/

namespace ModuleHooks.Sass.Reader

/-! ## Indentation -/

/-- The white space before the next line that is not empty, with the place after it. At
the end there is none. -/
def nextDepth : Reader (Nat × Nat) := do
  if ← isDone then return (0, ← position)
  else if !(← isNext '\n') then failHere "Expected newline."
  else
    ahead <| iterate (fun () => do
      skip
      let start ← position
      let lead ← takeWhile fun c => c == ' ' || c == '\t'
      match ← peek with
      | none => return .done (0, ← position)
      | some '\n' => return .again ()
      | some _ =>
        if List.elem ' ' lead && List.elem '\t' lead then
          failFrom "Tabs and spaces may not be mixed." start
        else return .done (lead.length, ← position)) ()

/-- Goes to the next line that is not empty. -/
def enterLine : Reader Nat := do
  let (depth, pos) ← nextDepth
  modify fun s => { s with pos := pos, depth := depth }
  return depth

/-- Whether the statement ends here. -/
def atEnd : Reader Bool := do
  match ← peek with
  | none => return true
  | some c =>
    if ← isIndented then return c == '\n'
    else return c == ';' || c == '\x7b' || c == '\x7d'

/-- Whether a block begins here. -/
def atBlock : Reader Bool := do
  if ← isIndented then onlyIf (← atEnd) do return (← nextDepth).1 > (← get).depth
  else isNext '\x7b'

/-- The end of a line. -/
def expectNewline : Reader Unit := do
  match ← peek with
  | some ';' => failHere "semicolons aren't allowed in the indented syntax."
  | some '\n' => skip
  | _ => failHere "expected newline."

/-- **The end of a statement**, which is named where nothing may be below it. -/
def separator (what : Option Text := none) : Reader Unit := do
  if ← isIndented then
    if !(← atEnd) then expectNewline
    let (depth, pos) ← nextDepth
    if depth > (← get).depth then
      seek pos
      let place : Text :=
        match what with
        | none => "here"
        | some t => "beneath a ".toList ++ t
      failHere ("Nothing may be indented ".toList ++ place ++ ['.'])
  else
    blanks
    match ← peek with
    | none => return ()
    | some c => if c == ';' || c == '\x7d' then return () else expect ';'

/-! ## Comments -/

/-- A comment that is kept, in the notations with curly brackets. -/
def keptComment : Reader Stmt := do
  let start ← position
  expect '/'
  expect '*'
  let parts ← iterate (fun ((acc, star) : List Part × Bool) => do
    match ← peek with
    | none => failHere "expected more input."
    | some c =>
      if c == '#' && (← atCode) then return .again ((← interpolation expressionBy) :: acc, false)
      else
        skip
        if star && c == '/' then return .done (.text ['/'] :: acc)
        else return .again (.text [c] :: acc, c == '*')) ([.text "/*"], false)
  return .comment (Template.ofPieces parts.reverse) (← spanFrom start)

/-- The rest of a line, with code in it. -/
def lineRest : Reader (List Part) := do
  let parts ← iterate (fun (acc : List Part) => do
    match ← peek with
    | none => return .done acc
    | some '\n' => return .done acc
    | some c =>
      if c == '#' && (← atCode) then return .again ((← interpolation expressionBy) :: acc)
      else
        skip
        return .again (.text [c] :: acc)) []
  return parts.reverse

/-- A comment that is kept, in the notation by indentation: it goes on through the lines
that stand deeper. -/
def deepComment : Reader Stmt := do
  let start ← position
  skip
  skip
  let parent := (← get).depth
  let gap ← textOf blanks
  let front : List Part ←
    if ← onlyIf (← isNext '\n') do return (← nextDepth).1 > parent then
      let _ ← enterLine
      pure [.text "/* "]
    else pure [.text ("/*".toList ++ gap)]
  let parts ← iterate (fun (acc : List Part) => do
    let pad := List.replicate ((← get).depth - parent - 3) ' '
    let acc := acc ++ .text pad :: (← lineRest)
    if (← nextDepth).1 ≤ parent then return .done acc
    else
      let _ ← enterLine
      return .again (acc ++ [.text "\n * "])) front
  let t := Template.ofPieces parts
  let last : Text :=
    match t.getLast? with
    | some (.text s) => Text.trimEnd isBlank s
    | _ => []
  let t := if Text.endsWith last "*/" then t else Template.ofPieces (t ++ [.text " */"])
  return .comment t (← spanFrom start)

/-- A comment that is not kept. -/
def droppedComment : Reader Stmt := do
  let parent := (← get).depth
  lineComment
  if ← isIndented then
    iterate (fun () => do
      if (← nextDepth).1 > parent then
        let _ ← enterLine
        let _ ← takeWhile (· != '\n')
        return .again ()
      else return .done ()) ()
  return .silent

/-- A comment that is a statement, if one stands here. -/
def commentStmt? : Reader (Option Stmt) := do
  if !(← isNext '/') then return none
  else
    match ← peekAt 1 with
    | some '/' => return some (← droppedComment)
    | some '*' => return some (← if ← isIndented then deepComment else keptComment)
    | _ => return none

/-! ## Statements below each other -/

/-- One statement of the notation by indentation; an empty line has none. -/
def lineStmt (assignment child : Reader Stmt) : Reader (List Stmt) := do
  match ← peek with
  | some '\n' => return []
  | none => return []
  | some '$' => return [← assignment]
  | _ =>
    match ← commentStmt? with
    | some s => return [s]
    | none => return [← child]

/-- **The statements of a block**, by the reading of one statement. -/
def block (assignment child : Reader Stmt) : Reader (List Stmt) := do
  if ← isIndented then
    let parent := (← get).depth
    let (stmts, _) ← iterate (fun ((acc, same) : List Stmt × Option Nat) => do
      if (← nextDepth).1 ≤ parent then return .done (acc, same)
      else
        let depth ← enterLine
        if same.any (· != depth) then
          failHere ("Inconsistent indentation, expected ".toList ++ Text.ofNat (same.getD 0)
            ++ " spaces.".toList)
        else
          let more ← lineStmt assignment child
          return .again (more.reverse ++ acc, some depth)) ([], none)
    modify fun s => { s with depth := parent }
    return stmts.reverse
  else
    expect '\x7b'
    blanks
    let stmts ← iterate (fun (acc : List Stmt) => do
      match ← peek with
      | none => failHere "expected \"\x7d\"."
      | some '$' => return .again ((← assignment) :: acc)
      | some ';' =>
        skip
        blanks
        return .again acc
      | some '\x7d' =>
        skip
        return .done acc
      | some _ =>
        match ← commentStmt? with
        | some s =>
          blanks
          return .again (s :: acc)
        | none => return .again ((← child) :: acc)) []
    return stmts.reverse

/-- The statements of a block, and the white space after it. -/
def blockThenBlanks (assignment child : Reader Stmt) : Reader (List Stmt) := do
  let stmts ← block assignment child
  blanks
  return stmts

/-- **The statements of a whole source.** -/
def statements (assignment child : Reader Stmt) : Reader (List Stmt) := do
  if ← isIndented then
    if (← peek).any fun c => c == ' ' || c == '\t' then
      let _ ← takeWhile fun c => c == ' ' || c == '\t'
      failFrom "Indenting at the beginning of the document is illegal." 0
    else
      let stmts ← iterate (fun (acc : List Stmt) => do
        if ← isDone then return .done acc
        else
          let more ← lineStmt assignment child
          let _ ← enterLine
          return .again (more.reverse ++ acc)) []
      return stmts.reverse
  else
    blanks
    let stmts ← iterate (fun (acc : List Stmt) => do
      match ← peek with
      | none => return .done acc
      | some '$' => return .again ((← assignment) :: acc)
      | some ';' =>
        skip
        blanks
        return .again acc
      | some _ =>
        match ← commentStmt? with
        | some s =>
          blanks
          return .again (s :: acc)
        | none => return .again ((← child) :: acc)) []
    return stmts.reverse

end ModuleHooks.Sass.Reader
