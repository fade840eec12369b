import ModuleHooks.Sass.Block
/-!
# Reading statements

A statement begins with an at sign, or it is a declaration, an assignment or a style
rule. Inside of a style rule only a try can tell a declaration from a rule: what comes
after the colon is read as an expression first, and as the rest of a selector if that
fails.

Statements hold blocks of statements. Which statements a block may have depends on what
it is the block of; the reading of the statements inside is a parameter.
-/

namespace ModuleHooks.Sass.Reader

/-- What a block is the block of. -/
inductive Place where
  /-- A rule, a mixin or the whole source. -/
  | rule
  /-- A function. -/
  | function
  /-- A declaration. -/
  | declaration
  deriving DecidableEq, Repr

/-- A reading of the statements of a block. -/
abbrev StmtReader := Place → Reader Stmt

/-- A reading in surroundings that end with it. -/
def inside {α : Type} (change : Stance → Stance) (r : Reader α) : Reader α :=
  within change (fun s t =>
    { t with
      inMixin := s.inMixin, inContent := s.inContent, inStyle := s.inStyle
      inUnknown := s.inUnknown, inControl := s.inControl }) r

/-! ## Assignments -/

/-- The marks after the value of a variable. -/
def assignmentFlags (hasSpace : Bool) : Reader (Bool × Bool) :=
  iterate (fun ((isGuarded, isGlobal) : Bool × Bool) => do
    if !(← scan '!') then return .done (isGuarded, isGlobal)
    let start ← position
    let flag ← name
    let span ← spanFrom start
    if flag = ("default" : Text) then
      whitespace
      return .again (true, isGlobal)
    else if flag = ("global" : Text) then
      if hasSpace then fail "!global isn't allowed for variables in other modules." span
      else
        whitespace
        return .again (isGuarded, true)
    else fail "Invalid flag name." span) (false, false)

/-- **An assignment**, after the module it belongs to. -/
def assignmentIn (space : Option Named) (start : Nat) : Reader Stmt := do
  let nameStart ← position
  let name ← variableName
  let nameSpan ← spanFrom nameStart
  if space.isSome && name.head? == some '-' then
    failFrom "Private members can't be accessed from outside their modules." start
  else if ← isPlainCss then failFrom "Sass variables aren't allowed in plain CSS." start
  else
    whitespace
    expect ':'
    whitespace
    let value ← expression
    let (isGuarded, isGlobal) ← assignmentFlags space.isSome
    separator (some "variable declaration")
    return .assign {
      name := ⟨name, nameSpan⟩, space := space, value := value
      isGuarded := isGuarded, isGlobal := isGlobal, span := ← spanFrom start }

/-- An assignment to a variable of this module. -/
def assignment : Reader Stmt := do assignmentIn none (← position)

/-- A name with code in it, or an assignment to a variable of another module. -/
def assignmentOrName : Reader (Sum Stmt Template) := do
  if !(← atName) then return .inr (← templateName expressionBy)
  else
    let start ← position
    let word ← name
    if (← isNext '.') && (← peekAt 1) == some '$' then
      let span ← spanFrom start
      skip
      return .inl (← assignmentIn (some ⟨normalName word, span⟩) start)
    else
      let rest ← templateNameRest expressionBy
      return .inr (Template.ofPieces (.text word :: rest))

/-- An assignment to a variable of another module. -/
def spacedAssignment : Reader Stmt := do
  let start ← position
  let word ← name
  let span ← spanFrom start
  expect '.'
  assignmentIn (some ⟨normalName word, span⟩) start

/-- A name of an at-rule without code. -/
def atRuleName : Reader Text := do
  expect '@'
  let word ← name
  whitespace
  return word

/-- An at-rule that may not stand here. -/
def misplaced (start : Nat) : Reader Stmt := do
  let _ ← anyValue expressionBy
  failFrom "This at-rule is not allowed here." start

section

variable (g : StmtReader)

/-- The statements of a block. -/
def bodyOf (p : Place) : Reader (List Stmt) := blockThenBlanks assignment (g p)

/-! ## Style rules and declarations -/

/-- The selector of a style rule. -/
def ruleSelector : Reader Template := do
  if ← isIndented then
    iterate (fun (acc : Template) => do
      let t := Template.ofPieces (acc ++ (← anyValue expressionBy true) ++ [.text ['\n']])
      let last : Text :=
        match t.getLast? with
        | some (.text s) => Text.trimEnd isBlank s
        | _ => []
      if ← onlyIf (last.getLast? == some ',') (scan '\n') then return .again t else return .done t) []
  else anyValue expressionBy

/-- **A style rule**, after what has been read of its selector. -/
def styleRule (before : Template) (start : Nat) : Reader Stmt := do
  modify fun s => { s with mayUse := false }
  let selector := Template.ofPieces (before ++ (← ruleSelector))
  if selector.isEmpty then failHere "expected \"\x7d\"."
  else
    let span ← spanFrom start
    let body ← inside (fun s => { s with inStyle := true }) do bodyOf g .rule
    return .rule selector span body (← spanFrom start)

/-- Whether a name of a property begins with a mark that browsers once overlooked. -/
def atHack : Reader Bool := do
  match ← peek with
  | some c => return c == ':' || c == '*' || c == '.' || (c == '#' && !(← atCode))
  | none => return false

/-- A declaration with its block, after its value. -/
def declarationBody (name : Template) (value : Option Placed) (start : Nat) : Reader Stmt := do
  let body ← bodyOf g .declaration
  return .style name value body (← spanFrom start)

/-- A declaration of a custom property, after its colon. -/
def customProperty (name : Template) (start : Nat) : Reader Stmt := do
  let valueStart ← position
  let value ← declarationValue expressionBy {}
  let span ← spanFrom valueStart
  separator (some "custom property")
  return .style name (some (.text value false, span)) [] (← spanFrom start)

/-- A declaration, an assignment, or the front of a selector. -/
def declarationOrFront : Reader (Sum Stmt Template) := do
  let start ← position
  let hack : Template ←
    if ← atHack then
      let c ← peek
      skip
      pure (Template.ofPieces [.text c.toList, .text (← textOf whitespace)])
    else pure []
  if !(← atTemplateName) then return .inr hack
  let word ← if hack.isEmpty then assignmentOrName else (.inr <$> templateName expressionBy)
  match word with
  | .inl s => return .inl s
  | .inr word =>
    modify fun s => { s with mayUse := false }
    let name := Template.ofPieces (hack ++ word)
    let name ←
      if (← isNext '/') && (← peekAt 1) == some '*' then
        pure (Template.ofPieces (name ++ [.text (← textOf loudComment)]))
      else pure name
    let gap ← textOf whitespace
    if !(← scan ':') then
      return .inr (if gap.isEmpty then name else Template.ofPieces (name ++ [.text [' ']]))
    else if Text.startsWith (Template.front name) "--" then
      return .inl (← customProperty name start)
    else if ← scan ':' then
      return .inr (Template.ofPieces (name ++ [.text (gap ++ [':', ':'])]))
    else if (← isIndented) && (← atTemplateName) then
      return .inr (Template.ofPieces (name ++ [.text (gap ++ [':'])]))
    else
      let after ← textOf whitespace
      if ← atBlock then return .inl (← declarationBody g name none start)
      else
        let mayBeSelector := after.isEmpty && (← atTemplateName)
        let before ← position
        let value ← attempt do
          let value ← expression
          if ← atBlock then
            if mayBeSelector then separator
          else if !(← atEnd) then separator
          return value
        match value with
        | .error e =>
          if !mayBeSelector then throw e
          else
            seek before
            let more ← anyValue expressionBy
            if !(← isIndented) && (← isNext ';') then throw e
            else return .inr (Template.ofPieces (name ++ [.text (gap ++ ':' :: after)] ++ more))
        | .ok value =>
          if ← atBlock then return .inl (← declarationBody g name (some value) start)
          else
            separator
            return .inl (.style name (some value) [] (← spanFrom start))

/-- A declaration or an assignment, where no rule may stand. -/
def declarationOnly (allowsCustom : Bool) : Reader Stmt := do
  let start ← position
  let word : Sum Stmt Template ←
    if ← atHack then
      let c ← peek
      skip
      let gap ← textOf whitespace
      let word ← templateName expressionBy
      pure (.inr (Template.ofPieces (.text c.toList :: .text gap :: word)))
    else if ← isPlainCss then (.inr <$> templateName expressionBy)
    else assignmentOrName
  match word with
  | .inl s => return s
  | .inr name =>
    whitespace
    expect ':'
    if allowsCustom && Text.startsWith (Template.front name) "--" then customProperty name start
    else
      whitespace
      let isPlain ← isPlainCss
      if ← atBlock then
        if isPlain then failHere "Nested declarations aren't allowed in plain CSS."
        else declarationBody g name none start
      else
        let value ← expression
        if ← atBlock then
          if isPlain then failHere "Nested declarations aren't allowed in plain CSS."
          else declarationBody g name (some value) start
        else
          separator
          return .style name (some value) [] (← spanFrom start)

/-- A declaration, an assignment or a style rule. -/
def declarationOrRule : Reader Stmt := do
  let start ← position
  let s ← get
  if (← isPlainCss) && s.inStyle && !s.inUnknown then declarationOnly g true
  else if ← onlyIf (← isIndented) (scan '\\') then styleRule g [] (← position)
  else
    match ← declarationOrFront g with
    | .inl s => return s
    | .inr front => styleRule g front start

/-- An assignment or a style rule. -/
def assignmentOrRule : Reader Stmt := do
  let start ← position
  if ← isPlainCss then styleRule g [] start
  else if ← onlyIf (← isIndented) (scan '\\') then styleRule g [] (← position)
  else if !(← atName) then styleRule g [] start
  else
    match ← assignmentOrName with
    | .inl s => return s
    | .inr front => styleRule g front start

/-! ## Parameters, mixins and functions -/

/-- **Parameters**, in their brackets. -/
def parameters : Reader Parameters := do
  let start ← position
  expect '('
  whitespace
  let (single, rest) ← iterate (fun (acc : List Parameter) => do
    if !(← isNext '$') then return .done (acc, none)
    let nameStart ← position
    let name ← variableName
    let span ← spanFrom nameStart
    whitespace
    let next (fallback : Option Expr) :
        Reader (Round (List Parameter) (List Parameter × Option Text)) := do
      if acc.any fun p => p.name == name then fail "Duplicate argument." span
      else
        let acc := ⟨name, fallback⟩ :: acc
        if ← scan ',' then
          whitespace
          return .again acc
        else return .done (acc, none)
    if ← scan ':' then
      whitespace
      next (some (← untilComma expressionBy false).1)
    else if ← scan '.' then
      expect '.'
      expect '.'
      whitespace
      return .done (acc, some name)
    else next none) []
  expect ')'
  return { single := single.reverse, rest := rest, span := ← spanFrom start }

/-- The names that no function may have. -/
def reservedFunctions : List Text :=
  List.map String.toList ["calc", "element", "expression", "url", "and", "or", "not", "clamp"]

/-- A function, after its keyword. -/
def functionRule (start : Nat) : Reader Stmt := do
  let word ← name
  whitespace
  let params ← parameters
  let s ← get
  if s.inMixin || s.inContent then
    failFrom "Mixins may not contain function declarations." start
  else if s.inControl then
    failFrom "Functions may not be declared in control directives." start
  else if List.elem (withoutVendor (normalName word)) reservedFunctions then
    failFrom "Invalid function name." start
  else
    whitespace
    return .function (normalName word) params (← bodyOf g .function)

/-- A mixin, after its keyword. -/
def mixinRule (start : Nat) : Reader Stmt := do
  let word ← name
  whitespace
  let params ← if ← isNext '(' then parameters else pure { span := ← here }
  let s ← get
  if s.inMixin || s.inContent then failFrom "Mixins may not contain mixin declarations." start
  else if s.inControl then failFrom "Mixins may not be declared in control directives." start
  else
    whitespace
    let body ← inside (fun s => { s with inMixin := true, foundContent := false }) do
      bodyOf g .rule
    let t ← get
    set { t with foundContent := s.foundContent }
    return .mixin (normalName word) params t.foundContent body

/-- The arguments of a call, if there are any. -/
def optionalArguments : Reader Arguments := do
  if ← isNext '(' then arguments expressionBy true
  else return .of [] [] none none (← here)

/-- A call of a mixin, after its keyword. -/
def includeRule (start : Nat) : Reader Stmt := do
  let nameStart ← position
  let word ← name
  let (space, word) ←
    if ← scan '.' then
      let span ← spanFrom nameStart
      let spaceEnd ← position
      let span := if spaceEnd = 0 then span else { span with stop := span.stop - 1 }
      let inner ← name
      if inner.head? == some '-' || inner.head? == some '_' then
        failFrom "Private members can't be accessed from outside their modules." spaceEnd
      else pure (some (Named.mk (normalName word) span), inner)
    else pure (none, word)
  let nameSpan ← spanFrom nameStart
  whitespace
  let args ← optionalArguments
  whitespace
  let params? : Option Parameters ←
    if ← scanName "using" then
      whitespace
      let p ← parameters
      whitespace
      pure (some p)
    else pure none
  let content : Option (Parameters × List Stmt) ←
    if params?.isSome || (← atBlock) then
      let body ← inside (fun s => { s with inContent := true }) do bodyOf g .rule
      pure (some (params?.getD { span := nameSpan }, body))
    else
      separator
      pure none
  return .mixinCall ⟨normalName word, nameSpan⟩ space args content (← spanFrom start)

/-- The block that a mixin was called with, after the keyword. -/
def contentRule (start : Nat) : Reader Stmt := do
  if !(← get).inMixin then
    failFrom "@content is only allowed within mixin declarations." start
  else
    whitespace
    let args ← optionalArguments
    separator (some "@content rule")
    modify fun s => { s with foundContent := true }
    return .content args

/-! ## Choices and loops -/

/-- Whether another branch of a choice follows. -/
def scanElse (depth : Nat) : Reader Bool := do
  let start ← position
  if ← isIndented then
    let saved := (← get).depth
    let found ←
      if ← onlyIf ((← atEnd) && !(← isDone)) do return (← nextDepth).1 == depth then
        let _ ← enterLine
        if ← scan '@' then scanName "else" true else pure false
      else pure false
    if !found then modify fun s => { s with pos := start, depth := saved }
    return found
  else
    whitespace
    if ← scan '@' then
      if ← scanName "else" true then return true
      else if ← scanName "elseif" true then
        seek ((← position) - 2)
        return true
      else
        seek start
        return false
    else
      seek start
      return false

/-- A choice, after its keyword. -/
def ifRule (p : Place) : Reader Stmt :=
  inside (fun s => { s with inControl := true }) do
    let depth := (← get).depth
    let (condition, _) ← expression
    let body ← block assignment (g p)
    blanks
    let (clauses, fallback) ← iterate (fun (acc : List (Expr × List Stmt)) => do
      if !(← scanElse depth) then return .done (acc, [])
      whitespace
      if ← scanName "if" then
        whitespace
        let (condition, _) ← expression
        let body ← block assignment (g p)
        return .again ((condition, body) :: acc)
      else return .done (acc, ← block assignment (g p))) [(condition, body)]
    blanks
    return .choose clauses.reverse fallback

/-- A loop over the items of a list, after its keyword. -/
def eachRule (p : Place) : Reader Stmt :=
  inside (fun s => { s with inControl := true }) do
    let first ← variableName
    whitespace
    let vars ← iterate (fun (acc : List Text) => do
      if ← scan ',' then
        whitespace
        let v ← variableName
        whitespace
        return .again (v :: acc)
      else return .done acc) [first]
    expectName "in"
    whitespace
    let (list, _) ← expression
    return .each vars.reverse list (← bodyOf g p)

/-- A loop over whole numbers, after its keyword. -/
def forRule (p : Place) : Reader Stmt :=
  inside (fun s => { s with inControl := true }) do
    let counter ← variableName
    whitespace
    expectName "from"
    whitespace
    let start ← position
    let isWord (word : Text) : Reader Bool := ahead (scanName word)
    let (first, _) ← expressionBy { stop := do
      if ← isWord "to" then return true else isWord "through" }
    let isExclusive ← scanName "to"
    let isThrough ← onlyIf (!isExclusive) (scanName "through")
    if !isExclusive && !isThrough then failHere "Expected \"to\" or \"through\"."
    else
      let firstSpan ← spanFrom start
      whitespace
      let last ← expression
      return .count counter (first, firstSpan) last isExclusive (← bodyOf g p)

/-- A loop with a condition, after its keyword. -/
def whileRule (p : Place) : Reader Stmt :=
  inside (fun s => { s with inControl := true }) do
    let (condition, _) ← expression
    return .loop condition (← bodyOf g p)

/-- A value at the end of a statement. -/
def valueThenEnd (what : Text) : Reader Placed := do
  let e ← expression
  separator (some what)
  return e

/-! ## Modules and imports -/

/-- The settings of a module. -/
def settings (mayGuard : Bool) : Reader (List Setting) := do
  if !(← scanName "with") then return []
  whitespace
  expect '('
  let list ← iterate (fun (acc : List Setting) => do
    whitespace
    let start ← position
    let var ← variableName
    whitespace
    expect ':'
    whitespace
    let (value, valueSpan) ← untilComma expressionBy false
    let nameSpan ← spanFrom start
    let flagStart ← position
    let isGuarded ←
      if ← onlyIf mayGuard (scan '!') then
        if (← name) == ("default" : Text) then
          whitespace
          pure true
        else failFrom "Invalid flag name." flagStart
      else pure false
    let span ← spanFrom start
    if acc.any fun s => s.name == var then
      fail "The same variable may only be configured once." span
    else
      let acc := ⟨var, (value, valueSpan), isGuarded, { nameSpan with stop := valueSpan.stop }⟩ :: acc
      if ← scan ',' then
        whitespace
        if ← atExpression then return .again acc else return .done acc
      else return .done acc) []
  expect ')'
  return list.reverse

/-- The name of a module by its address. -/
def moduleName? (url : Text) : Option Text :=
  let base := ((Text.splitOn '/' url).getLast?).getD []
  let base := ((Text.splitOn ':' base).getLast?).getD []
  let base := ((Text.splitOn '.' base).head?).getD []
  let base := if base.head? == some '_' then base.drop 1 else base
  match base with
  | c :: r =>
    let starts := isNameStart c || (c == '-' && r.head?.any fun d => isNameStart d || d == '-')
    if starts && r.all isNameChar then some base else none
  | [] => none

/-- The use of a module, after its keyword. -/
def useRule (start : Nat) : Reader Stmt := do
  let urlStart ← position
  let url ← string
  whitespace
  let space : Option Text ←
    if ← scanName "as" then
      whitespace
      if ← scan '*' then pure none else pure (some (normalName (← name)))
    else
      match moduleName? url with
      | some t => pure (some (normalName t))
      | none =>
        failFrom ("The default namespace \"".toList ++ ((Text.splitOn '/' url).getLast?).getD []
          ++ "\" is not a valid Sass identifier.\n\nRecommendation: add an \"as\" clause to define an explicit namespace.".toList)
          urlStart
  whitespace
  let list ← settings false
  separator (some "@use rule")
  let span ← spanFrom start
  if !(← get).mayUse then fail "@use rules must be written before any other rules." span
  else
    separator (some "@use rule")
    return .use url space list span

/-- The members that a module names: variables, and others. -/
def memberList : Reader (List Text × List Text) :=
  iterate (fun ((vars, others) : List Text × List Text) => do
    whitespace
    let acc ←
      if ← isNext '$' then pure ((← variableName) :: vars, others)
      else pure (vars, normalName (← name) :: others)
    whitespace
    if ← scan ',' then return .again acc else return .done acc) ([], [])

/-- A module that is passed on, after its keyword. -/
def forwardRule (start : Nat) : Reader Stmt := do
  let url ← string
  whitespace
  let front : Text ←
    if ← scanName "as" then
      whitespace
      let t ← name
      expect '*'
      whitespace
      pure (normalName t)
    else pure []
  let shown : Shown ←
    if ← scanName "show" then
      let (v, o) ← memberList
      pure (.only v o)
    else if ← scanName "hide" then
      let (v, o) ← memberList
      pure (.allBut v o)
    else pure .all
  let list ← settings true
  separator (some "@forward rule")
  let span ← spanFrom start
  if !(← get).mayUse then fail "@forward rules must be written before any other rules." span
  else return .forward url front shown list span

/-- Whether an import is for the browser. -/
def isCssImport (url : Text) : Bool :=
  let low := Text.lowerAscii url
  Text.utf8Length url ≥ 5 &&
    (Text.endsWith low ".css" || Text.startsWith low "http://" || Text.startsWith low "https://"
      || Text.startsWith low "//")

/-- What an import for the browser demands, if it demands anything. -/
def importModifiers? : Reader (Option Template) := do
  if !(← atTemplateName) && !(← isNext '(') then return none
  let parts ← iterate (fun (acc : List Part) => do
    let gap : List Part := if acc.isEmpty then [] else [.text [' ']]
    if ← atTemplateName then
      let word ← templateName expressionBy
      let low := (Template.plain? word).map Text.lowerAscii
      let acc := acc ++ gap ++ word
      if ← onlyIf (low != some ("and" : Text)) (scan '(') then
        let inner : List Part ←
          if low == some ("supports" : Text) then
            let start ← position
            let c ← importSupports
            let span ← spanFrom start
            let code : Part := .code (.condition c) span
            match c with
            | .declaration .. => pure [code]
            | _ => pure [.text ['('], code, .text [')']]
          else
            let value ← declarationValue expressionBy
              { allowsSemicolon := true, allowsEmpty := true }
            pure ([.text ['(']] ++ value ++ [.text [')']])
        expect ')'
        whitespace
        return .again (acc ++ inner)
      else
        whitespace
        if ← scan ',' then return .done (acc ++ [.text ", "] ++ (← mediaQueries))
        else return .again acc
    else if ← isNext '(' then return .done (acc ++ gap ++ (← mediaQueries))
    else return .done acc) []
  return some (Template.ofPieces parts)
where
  /-- What an import demands that the browser supports. -/
  importSupports : Reader Condition := do
    if ← scanName "not" then
      whitespace
      return .negation (← supportsCondition)
    else if ← isNext '(' then supportsCondition
    else
      let start ← position
      let call? ← attempt do
        let word ← templateName expressionBy
        expect '('
        let args ← declarationValue expressionBy { allowsSemicolon := true, allowsEmpty := true }
        expect ')'
        return Condition.function word args
      match call? with
      | .ok c => return c
      | .error _ =>
        seek start
        let (name, _) ← expression
        expect ':'
        supportsValue name

/-- One thing to import. -/
def importArgument : Reader Import := do
  let start ← position
  let first ← peek
  if first == some 'u' || first == some 'U' then
    expectName "url"
    let url : Template ←
      match ← urlContents? expressionBy "url" with
      | some t => pure t
      | none =>
        let args ← arguments expressionBy
        let span ← spanFrom start
        pure [.code (.plainCall [.text "url"] args span) span]
    whitespace
    let modifiers ← importModifiers?
    return .css url modifiers (← spanFrom start)
  else if (← isIndented) && first != some '"' && first != some '\'' then
    let url ← takeWhile fun c => c != ',' && c != ';' && c != '\n'
    let span ← spanFrom start
    if isCssImport url then return .css (Template.quoted [.text url]) none span
    else return .file url span
  else
    let url ← string
    let raw ← textFrom start
    whitespace
    let modifiers ← importModifiers?
    let span ← spanFrom start
    if isCssImport url || modifiers.isSome then return .css [.text raw] modifiers span
    else return .file url span

/-- Imports, after the keyword. -/
def importRule (start : Nat) : Reader Stmt := do
  let list ← iterate (fun (acc : List Import) => do
    whitespace
    let i ← importArgument
    let s ← get
    match i with
    | .file .. =>
      if s.inControl || s.inMixin then
        let _ ← misplaced start
    | .css .. => pure ()
    whitespace
    if ← scan ',' then return .again (i :: acc) else return .done (i :: acc)) []
  separator (some "@import rule")
  return .imports list.reverse

/-- An import in a source without code. -/
def plainImportRule : Reader Stmt := do
  let start ← position
  let first ← peek
  let url : Template ←
    if first == some 'u' || first == some 'U' then
      expectName "url"
      match ← urlContents? expressionBy "url" with
      | some t => pure t
      | none =>
        let args ← arguments expressionBy
        let span ← spanFrom start
        pure [.code (.plainCall [.text "url"] args span) span]
    else
      let t ← templateString expressionBy
      pure (Template.quoted t)
  whitespace
  let modifiers ← importModifiers?
  separator (some "@import rule")
  return .imports [.css url modifiers (← spanFrom start)]

/-! ## Other at-rules -/

/-- A rule whose selectors extend others, after the keyword. -/
def extendRule (start : Nat) : Reader Stmt := do
  let s ← get
  if !s.inStyle && !s.inMixin && !s.inContent then
    failFrom "@extend may only be used within style rules." start
  else
    let value ← anyValue expressionBy
    let isOptional ← scan '!'
    if isOptional then expectName "optional"
    separator (some "@extend rule")
    return .extend value isOptional (← spanFrom start)

/-- An at-rule of the browser, after its name. -/
def unknownRule (name : Template) (start : Nat) : Reader Stmt :=
  inside (fun s => { s with inUnknown := true }) do
    let value : Option Template ←
      if !(← isNext '!') && !(← atEnd) then pure (some (← anyValue expressionBy)) else pure none
    let body : Option (List Stmt) ←
      if ← atBlock then pure (some (← bodyOf g .rule))
      else
        separator
        pure none
    return .unknown name value body (← spanFrom start)

/-- A rule for some media, after the keyword. -/
def mediaRule (start : Nat) : Reader Stmt := do
  let queryStart ← position
  let query ← mediaQueries
  let querySpan ← spanFrom queryStart
  let body ← bodyOf g .rule
  return .media query querySpan body (← spanFrom start)

/-- A rule for what is supported, after the keyword. -/
def supportsRule (start : Nat) : Reader Stmt := do
  let c ← supportsCondition
  whitespace
  let body ← bodyOf g .rule
  return .supports c body (← spanFrom start)

/-- A rule that is taken out of others, after the keyword. -/
def atRootRule (start : Nat) : Reader Stmt := do
  if ← isNext '(' then
    let queryStart ← position
    let query ← atRootQuery
    let querySpan ← spanFrom queryStart
    whitespace
    let body ← bodyOf g .rule
    return .atRoot (some (query, querySpan)) body (← spanFrom start)
  else if ← atBlock then
    let body ← bodyOf g .rule
    return .atRoot none body (← spanFrom start)
  else
    let child ← styleRule g [] (← position)
    return .atRoot none [child] (← spanFrom start)

/-- The at-rules of a source without code that have a meaning elsewhere. -/
def forbiddenRules : List Text :=
  List.map String.toList
    ["at-root", "content", "debug", "each", "error", "extend", "for", "function", "if",
      "include", "mixin", "return", "warn", "while"]

/-- **An at-rule.** -/
def atRule : Reader Stmt := do
  let start ← position
  expect '@'
  let name ← templateName expressionBy
  whitespace
  let word := ((Template.plain? name).getD []).toString
  if ← isPlainCss then
    if List.elem word.toList forbiddenRules then
      let _ ← anyValue expressionBy
      failFrom "This at-rule isn't allowed in plain CSS." start
    else
      match word with
      | "import" => plainImportRule
      | "media" => mediaRule g start
      | "supports" => supportsRule g start
      | _ => unknownRule g name start
  else
    let mayUse := (← get).mayUse
    modify fun s => { s with mayUse := false }
    let keep : Reader Unit := modify fun s => { s with mayUse := mayUse }
    match word with
    | "at-root" => atRootRule g start
    | "charset" =>
      keep
      let _ ← string
      return .silent
    | "content" => contentRule start
    | "debug" | "warn" =>
      let (e, span) ← valueThenEnd ('@' :: word.toList ++ " rule".toList)
      return .remark e (word == "warn") span
    | "each" => eachRule g .rule
    | "else" | "return" => misplaced start
    | "error" =>
      let (e, span) ← valueThenEnd "@error rule"
      return .fail e span
    | "extend" => extendRule start
    | "for" => forRule g .rule
    | "forward" =>
      keep
      forwardRule start
    | "function" => functionRule g start
    | "if" => ifRule g .rule
    | "import" => importRule start
    | "include" => includeRule g start
    | "media" => mediaRule g start
    | "mixin" => mixinRule g start
    | "supports" => supportsRule g start
    | "use" =>
      keep
      useRule start
    | "while" => whileRule g .rule
    | _ => unknownRule g name start

/-- **A statement of a rule**, or of the whole source. -/
def ruleStmt : Reader Stmt := do
  match ← peek with
  | some '@' => atRule g
  | some '\x7d' => failHere "unmatched \"\x7d\"."
  | c =>
    let start ← position
    let isShort := (← isIndented) && (c == some '=' || (c == some '+' && (← atName 1)))
    if isShort then
      modify fun s => { s with mayUse := false }
      skip
      if c == some '+' then includeRule g start
      else
        whitespace
        mixinRule g start
    else if c == some '+' || c == some '=' then styleRule g [] start
    else
      let s ← get
      if s.inStyle || s.inUnknown || s.inMixin || s.inContent then declarationOrRule g
      else assignmentOrRule g

/-- An at-rule of a function or of a declaration. -/
def controlRule (p : Place) : Reader Stmt := do
  let start ← position
  let word ← atRuleName
  match word.toString, p with
  | "debug", _ | "warn", _ =>
    let (e, span) ← valueThenEnd ('@' :: word ++ " rule".toList)
    return .remark e (word == ("warn" : Text)) span
  | "error", _ =>
    let (e, span) ← valueThenEnd "@error rule"
    return .fail e span
  | "each", _ => eachRule g p
  | "for", _ => forRule g p
  | "if", _ => ifRule g p
  | "while", _ => whileRule g p
  | "return", .function =>
    let (e, span) ← valueThenEnd "@return rule"
    return .give e span
  | "content", .declaration => contentRule start
  | "include", .declaration => includeRule g start
  | _, _ => misplaced start

/-- A statement of a function. -/
def functionStmt : Reader Stmt := do
  if ← isNext '@' then controlRule g .function
  else
    match ← attempt spacedAssignment with
    | .ok s => return s
    | .error e =>
      match ← attempt (declarationOrRule g) with
      | .ok (.rule _ _ _ span) => fail "@function rules may not contain style rules." span
      | .ok (.style _ _ _ span) => fail "@function rules may not contain declarations." span
      | .ok s => return s
      | .error _ => throw e

/-- A statement of a declaration. -/
def declarationStmt : Reader Stmt := do
  if ← isNext '@' then controlRule g .declaration else declarationOnly g false

/-- **A statement**, by the reading of the statements inside of it. -/
def stmtStep : StmtReader
  | .rule => ruleStmt g
  | .function => functionStmt g
  | .declaration => declarationStmt g

end

/-- Statements inside of each other up to some depth. -/
def stmtWithin : Nat → StmtReader
  | 0 => fun _ => failHere "expected \"\x7d\"."
  | n + 1 => stmtStep (stmtWithin n)

/-- **The statements of a whole source.** A mark of the byte order may stand before
them. -/
def sheet : Reader (List Stmt) := do
  let _ ← scan '\uFEFF'
  statements assignment fun f s => stmtWithin (f.chars.size + 1) .rule f s

end ModuleHooks.Sass.Reader

namespace ModuleHooks.Sass

/-- The notation of a file, by its extension. -/
def Dialect.ofPath (p : Path) : Dialect :=
  let e := Path.extension? p
  if e == some ("sass" : Text) then .indented
  else if e == some ("css" : Text) then .plain
  else .braces

/-- **Reads a style sheet.** -/
def Sheet.read (s : Source) : Except Fault Sheet :=
  let d := Dialect.ofPath s.path
  (Reader.sheet (Feed.ofSource s d) {}).map fun x => ⟨s.path, d, x.1⟩

end ModuleHooks.Sass
