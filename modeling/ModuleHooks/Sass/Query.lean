import ModuleHooks.Sass.Expression
/-!
# Reading the heads of at-rules

Media queries and the conditions of support hold expressions at fixed places. A media
query becomes a template, which is read again once its code has been computed; a
condition of support keeps its structure.
-/

namespace ModuleHooks.Sass.Reader

/-! ## Media queries -/

/-- An expression up to a comparison. -/
def untilComparison : Reader Placed :=
  expressionBy { stop := do
    match ← peek with
    | some '=' => return (← peekAt 1) != some '='
    | some c => return c == '<' || c == '>'
    | none => return false }

/-- An expression as a piece of a template. -/
def codeOf (e : Placed) : Part := .code e.1 e.2

/-- A comparison of a feature, after its first operand. -/
def mediaRange : Reader (List Part) := do
  match ← peek with
  | some c =>
    if c == '<' || c == '>' || c == '=' then
      let sign (c : Char) : Reader (List Part) := do
        skip
        let eq ← if c != '=' then scan '=' else pure false
        whitespace
        return [.text ([' ', c] ++ (if eq then ['='] else []) ++ [' '])]
      let first ← sign c
      let middle ← untilComparison
      if c != '=' && (← isNext c) then
        let second ← sign c
        return first ++ [codeOf middle] ++ second ++ [codeOf (← untilComparison)]
      else return first ++ [codeOf middle]
    else return []
  | none => return []

/-- A word between the conditions of a query, and the conditions after it. -/
def mediaWord (word : Text) (operand : Reader (List Part)) : Reader (List Part) :=
  iterate (fun (acc : List Part) => do
    let acc := acc ++ (← operand)
    whitespace
    if ← scanName word then
      expectWhitespace
      return .again (acc ++ [.text (' ' :: word ++ [' '])])
    else return .done acc) []

/-- A fault at the character before the next one. -/
def failBefore {α : Type} (message : Text) : Reader α := fun f s =>
  .error (.misplaced message (f.spanAt (s.pos - 1)))

/-- A condition of a query in round brackets. The first argument bounds how deep the
brackets go. -/
def mediaParens : Nat → Reader (List Part)
  | 0 => failHere "expected media condition in parentheses."
  | n + 1 => do
    let operand : Reader (List Part) := do
      if ← isNext '#' then return [← interpolation expressionBy] else mediaParens n
    if !(← scan '(') then failBefore "expected media condition in parentheses."
    else
      whitespace
      let inner : List Part ←
        if ← isNext '(' then
          let first ← mediaParens n
          whitespace
          if ← scanName "and" then
            expectWhitespace
            pure (first ++ [.text " and "] ++ (← mediaWord "and" operand))
          else if ← scanName "or" then
            expectWhitespace
            pure (first ++ [.text " or "] ++ (← mediaWord "or" operand))
          else pure first
        else if ← scanName "not" then
          expectWhitespace
          pure (.text "not " :: (← operand))
        else
          let name ← untilComparison
          if ← scan ':' then
            whitespace
            pure [codeOf name, .text ": ", codeOf (← expression)]
          else pure (codeOf name :: (← mediaRange))
      expect ')'
      whitespace
      return [.text ['(']] ++ inner ++ [.text [')']]

/-- A condition of a query. -/
def mediaOperand : Reader (List Part) := do
  if ← isNext '#' then return [← interpolation expressionBy]
  else fun f s => mediaParens (f.chars.size + 1) f s

/-- **One media query.** -/
def mediaQuery : Reader (List Part) := do
  if ← isNext '(' then
    let first ← mediaOperand
    whitespace
    if ← scanName "and" then
      expectWhitespace
      return first ++ [.text " and "] ++ (← mediaWord "and" mediaOperand)
    else if ← scanName "or" then
      expectWhitespace
      return first ++ [.text " or "] ++ (← mediaWord "or" mediaOperand)
    else return first
  else
    let first ← templateName expressionBy
    let lower (t : Template) := (Template.plain? t).map Text.lowerAscii
    if lower first == some ("not" : Text) then
      expectWhitespace
      if !(← atTemplateName) then return .text "not " :: (← mediaOperand)
    whitespace
    if !(← atTemplateName) then return first
    let second ← templateName expressionBy
    let front : List Part ←
      if lower second == some ("and" : Text) then
        expectWhitespace
        pure (first ++ [.text " and "])
      else
        whitespace
        if ← scanName "and" then
          expectWhitespace
          pure (first ++ [.text " "] ++ second ++ [.text " and "])
        else return first ++ [.text " "] ++ second
    if ← scanName "not" then
      expectWhitespace
      return front ++ [.text "not "] ++ (← mediaOperand)
    else return front ++ (← mediaWord "and" mediaOperand)

/-- **A list of media queries.** -/
def mediaQueries : Reader Template := do
  let parts ← iterate (fun (acc : List Part) => do
    whitespace
    let acc := acc ++ (← mediaQuery)
    whitespace
    if ← scan ',' then return .again (acc ++ [.text ", "]) else return .done acc) []
  return Template.ofPieces parts

/-! ## Conditions of support -/

/-- The value of a declaration in a condition. -/
def supportsValue (name : Expr) : Reader Condition := do
  let isCustom :=
    match name with
    | .text parts false => Text.startsWith (Template.front parts) "--"
    | _ => false
  if isCustom then return .declaration name (.text (← declarationValue expressionBy {}) false)
  else
    whitespace
    return .declaration name (← expression).1

/-- Conditions with one word between them, after the first condition. -/
def supportsWords (operand : Reader Condition) (first : Condition) : Reader Condition := do
  let (c, _) ← iterate (fun ((left, word) : Condition × Option Text) => do
    if !(← atName) then return .done (left, word)
    let word : Text ←
      match word with
      | some w => do
        expectName w
        pure w
      | none =>
        if ← scanName "or" then pure ("or" : Text)
        else
          expectName "and"
          pure ("and" : Text)
    whitespace
    let right ← operand
    whitespace
    return .again (.operation left right word, some word)) (first, none)
  return c

/-- **A condition of support**, whole or in its brackets. The first argument bounds how
deep the brackets go. -/
def supportsWithin : Nat → Bool → Reader Condition
  | 0, _ => failHere "Expected @supports condition."
  | n + 1, false => do
    if ← scanName "not" then
      whitespace
      return .negation (← supportsWithin n true)
    else
      let first ← supportsWithin n true
      whitespace
      supportsWords (supportsWithin n true) first
  | n + 1, true => do
    if ← atTemplateName then
      let start ← position
      let word ← templateName expressionBy
      let span ← spanFrom start
      if (Template.plain? word).map Text.lowerAscii == some ("not" : Text) then
        fail "\"not\" is not a valid identifier here." span
      else if ← scan '(' then
        let args ← declarationValue expressionBy { allowsSemicolon := true, allowsEmpty := true }
        expect ')'
        return .function word args
      else
        match word with
        | [.code e _] => return .code e
        | _ => fail "Expected @supports condition." span
    else
      expect '('
      whitespace
      if ← scanName "not" then
        whitespace
        let c ← supportsWithin n true
        expect ')'
        return .negation c
      else if ← isNext '(' then
        let c ← supportsWithin n false
        expect ')'
        return c
      else
        let start ← position
        let name ← attempt do
          let e ← expression
          expect ':'
          return e.1
        match name with
        | .ok name =>
          let c ← supportsValue name
          expect ')'
          return c
        | .error e =>
          seek start
          let word ← templateName expressionBy
          let after ← position
          let operation? : Option Condition ←
            match word with
            | [.code c _] =>
              whitespace
              if (← ahead (scanName "and")) || (← ahead (scanName "or")) then
                pure (some (← supportsWords (supportsWithin n true) (.code c)))
              else pure none
            | _ => pure none
          match operation? with
          | some c =>
            expect ')'
            return c
          | none =>
            seek after
            let rest ← declarationValue expressionBy
              { allowsSemicolon := true, allowsEmpty := true, allowsColon := false }
            if ← isNext ':' then throw e
            else
              expect ')'
              return .anything (Template.ofPieces (word ++ rest))

/-- A condition of support. -/
def supportsCondition : Reader Condition := fun f s =>
  supportsWithin (f.chars.size + 1) false f s

/-- A query of the rules that a rule is taken out of. -/
def atRootQuery : Reader Template := do
  if ← isNext '#' then return [← interpolation expressionBy]
  else
    expect '('
    whitespace
    let name ← expression
    let value : List Part ←
      if ← scan ':' then
        whitespace
        pure [.text ": ", codeOf (← expression)]
      else pure []
    expect ')'
    whitespace
    return Template.ofPieces ([.text ['('], codeOf name] ++ value ++ [.text [')']])

end ModuleHooks.Sass.Reader
