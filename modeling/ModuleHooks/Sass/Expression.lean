import ModuleHooks.Binary.Decimal
import ModuleHooks.Sass.Template
/-!
# Reading expressions

Operands are read one after the other. Operators wait on a stack until one that binds
less strongly comes; operands without an operator between them make a list, and commas
make a list of lists.

A slash between two plain numbers may be meant as it is written. Inside of round brackets
it always divides; when a list turns up in the brackets after all, the reading starts
again as if there were none.
-/

namespace ModuleHooks.Sass.Reader

/-! ## Numbers, colours and names -/

/-- Whether the next character is a digit. -/
def isDigitAt (n : Nat) : Reader Bool := return (← peekAt n).any Char.isDigit

/-- The digits of a number after its point. -/
def decimals (mayEndWithPoint : Bool) : Reader Text := do
  if !(← isNext '.') then return []
  match ← peekAt 1 with
  | none => if mayEndWithPoint then return [] else failHere "Expected more input."
  | some c =>
    if c.isDigit then
      skip
      takeWhile Char.isDigit
    else if mayEndWithPoint then return []
    else
      skip
      failHere "Expected digit."

/-- The power of ten of a number. -/
def power : Reader Int := do
  let marks ← peek
  let next ← peekAt 1
  if (marks == some 'e' || marks == some 'E')
      && next.any (fun c => c.isDigit || c == '-' || c == '+') then
    skip
    let negative ← isNext '-'
    if next == some '-' || next == some '+' then skip
    if !(← isDigitAt 0) then failHere "Expected digit."
    else
      let n : Int := Binary.digitsValue (← takeWhile Char.isDigit)
      return if negative then -n else n
  else return 0

/-- **A number with its unit.** -/
def number : Reader Placed := do
  let start ← position
  let negative ← isNext '-'
  if !(← scan '+') then let _ ← scan '-'
  let digits : Text ←
    if ← isNext '.' then pure []
    else
      let t ← takeWhile Char.isDigit
      if t.isEmpty then failHere "Expected digit." else pure t
  let places ← decimals !digits.isEmpty
  let exponent ← power
  let units : Units ←
    if ← scan '%' then pure (Units.single "%")
    else
      let isDouble := (← peek) == some '-' && (← peekAt 1) == some '-'
      if (← atName) && !isDouble then pure (Units.ofName (← name true)) else pure Units.none
  return (.number (Binary.ofParts .double negative digits places exponent) units,
    ← spanFrom start)

/-- A hexadecimal digit. -/
def hexDigit : Reader Nat := do
  match (← peek).bind Text.hexValue? with
  | some d => skip; return d
  | none => failHere "Expected hex digit."

/-- Whether a hexadecimal digit is next. -/
def isHexNext : Reader Bool := return ((← peek).bind Text.hexValue?).isSome

/-- The digits of a colour, after its hash. -/
def hexColor : Reader Color := do
  let start ← position
  let byte (a b : Nat) : Binary := whole (a * 16 + b : Nat)
  let a ← hexDigit
  let b ← hexDigit
  let c ← hexDigit
  let (red, green, blue, alpha) ←
    if ← isHexNext then
      let d ← hexDigit
      if ← isHexNext then
        let e ← hexDigit
        let f ← hexDigit
        if ← isHexNext then
          let g ← hexDigit
          let h ← hexDigit
          pure (byte a b, byte c d, byte e f, per (byte g h) (whole 255))
        else pure (byte a b, byte c d, byte e f, whole 1)
      else pure (byte a a, byte b b, byte c c, per (byte d d) (whole 255))
    else pure (byte a a, byte b b, byte c c, whole 1)
  return Color.ofRgb red green blue alpha (.literal ('#' :: (← textFrom start)))

/-- A range of characters. -/
def unicodeRange : Reader Placed := do
  let start ← position
  skip
  expect '+'
  let isHex (c : Char) := (Text.hexValue? c).isSome
  let first ← takeWhile isHex
  let wild ← takeWhile (· == '?')
  let length := first.length + wild.length
  if length = 0 then failHere "Expected hex digit or \"?\"."
  else if length > 6 then failFrom "Expected at most 6 digits." start
  else
    if ← onlyIf wild.isEmpty (scan '-') then
      let lastStart ← position
      let last ← takeWhile isHex
      if last.isEmpty then failHere "Expected hex digit."
      else if last.length > 6 then failFrom "Expected at most 6 digits." lastStart
    if wild.isEmpty && (← peek).any (fun c => isNameChar c || c == '\\') then
      failHere "Expected end of identifier."
    else return (.text [.text (← textFrom start)] false, ← spanFrom start)

/-- A variable. -/
def variableExpr : Reader Placed := do
  let start ← position
  let name ← variableName
  let span ← spanFrom start
  if ← isPlainCss then fail "Sass variables aren't allowed in plain CSS." span
  else return (.var ⟨name, span⟩ none, span)

/-- The selector of the style rule around. -/
def parentExpr : Reader Placed := do
  if ← isPlainCss then failHere "The parent selector isn't allowed in plain CSS."
  else
    let start ← position
    expect '&'
    return (.parent, ← spanFrom start)

/-- An exclamation mark with its word. -/
def important : Reader Placed := do
  let start ← position
  expect '!'
  whitespace
  expectName "important"
  return (.text [.text "!important"] false, ← spanFrom start)

/-- Whether an expression begins here. -/
def atExpression : Reader Bool := do
  match ← peek with
  | none => return false
  | some '.' => return (← peekAt 1) != some '.'
  | some '!' =>
    match ← peekAt 1 with
    | none => return true
    | some c => return c == 'i' || c == 'I' || isBlank c
  | some c => return isNameStart c || c.isDigit || List.elem c "(/['\"#+-\\$&".toList

section

variable (g : ExprReader)

/-- An expression up to a comma. -/
def untilComma (singleEquals : Bool) : Reader Placed :=
  g { stop := isNext ',', singleEquals := singleEquals }

/-- What the arguments of a call have come to so far. -/
structure ArgumentsSoFar where
  /-- The arguments by position, the last one first. -/
  positional : List Expr := []
  /-- The arguments by name, the last one first. -/
  named : List (Text × Expr) := []
  /-- The list whose items are arguments. -/
  rest : Option Expr := none
  /-- The map whose entries are arguments. -/
  keywordRest : Option Expr := none

/-- **The arguments of a call**, in their brackets. -/
def arguments (forMixin : Bool := false) (allowsEmptySecond : Bool := false) :
    Reader Arguments := do
  let start ← position
  expect '('
  whitespace
  let a ← iterate (fun (a : ArgumentsSoFar) => do
    if !(← atExpression) then return .done a
    let (e, span) ← untilComma g !forMixin
    whitespace
    let more (a : ArgumentsSoFar) : Reader (Round ArgumentsSoFar ArgumentsSoFar) := do
      whitespace
      if !(← scan ',') then return .done a
      whitespace
      if allowsEmptySecond && a.positional.length == 1 && a.named.isEmpty && a.rest.isNone
          && (← isNext ')') then
        return .done { a with positional := .text [] false :: a.positional }
      else return .again a
    let named? : Option Named :=
      match e with
      | .var name none => some name
      | _ => none
    match named? with
    | some name =>
      if ← scan ':' then
        whitespace
        if a.named.any fun n => n.1 == name.name then
          return ← fail "Duplicate argument." name.span
        let (v, _) ← untilComma g !forMixin
        return ← more { a with named := (name.name, v) :: a.named }
    | none => pure ()
    if ← scan '.' then
      expect '.'
      expect '.'
      if a.rest.isNone then more { a with rest := some e }
      else
        whitespace
        return .done { a with keywordRest := some e }
    else if !a.named.isEmpty then
      fail "Positional arguments must come before keyword arguments." span
    else more { a with positional := e :: a.positional }) {}
  expect ')'
  return .of a.positional.reverse a.named.reverse a.rest a.keywordRest (← spanFrom start)

/-- What follows the name of a module and a point. -/
def inSpace (space : Named) (start : Nat) : Reader Placed := do
  if ← isNext '$' then
    let nameStart ← position
    let name ← variableName
    let span ← spanFrom start
    if name.head? == some '-' then
      fail "Private members can't be accessed from outside their modules." span
    else return (.var ⟨name, ← spanFrom nameStart⟩ (some space), span)
  else
    let nameStart ← position
    let name ← name
    if name.head? == some '-' || name.head? == some '_' then
      failFrom "Private members can't be accessed from outside their modules." nameStart
    else
      let args ← arguments g
      let span ← spanFrom start
      return (.call (normalName name) (some space) args span, span)

/-! ## Calculations -/

/-- Whether code stands in the rest of a calculation, up to its closing bracket. -/
def calcHasCode : Reader Bool := do
  let start ← position
  let found ← iterate (fun ((depth, brackets) : Int × List Char) => do
    match ← peek with
    | none => return .done false
    | some c =>
      if c == '\\' then
        skip
        skip
        return .again (depth, brackets)
      else if c == '/' then
        if !(← comment) then skip
        return .again (depth, brackets)
      else if c == '"' || c == '\'' then
        let _ ← templateString g
        return .again (depth, brackets)
      else if c == '#' then
        if depth == 0 && (← peekAt 1) == some '\x7b' then return .done true
        else
          skip
          return .again (depth, brackets)
      else if c == '(' || c == '[' || c == '\x7b' then
        skip
        return .again (if c == '(' then depth + 1 else depth, closing c :: brackets)
      else if c == ')' || c == ']' || c == '\x7d' then
        match brackets with
        | b :: rest =>
          if b == c then
            skip
            return .again (if c == ')' then depth - 1 else depth, rest)
          else return .done false
        | [] => return .done false
      else
        skip
        return .again (depth, brackets)) (0, [])
  seek start
  return found

/-- A calculation with code in it is a text. -/
def calcCode? : Reader (Option Expr) := do
  if ← calcHasCode g then return some (.text (← declarationValue g {}) false)
  else return none

/-- A calculation whose name has been passed, by the readings for its parts. -/
def calcOf? (sum : Reader Placed) (lower : Text) (start : Nat) : Reader (Option Placed) := do
  let args (most : Option Nat) : Reader (List Expr) := do
    expect '('
    match ← calcCode? g with
    | some e =>
      expect ')'
      return [e]
    | none =>
      whitespace
      let first ← sum
      let list ← iterate (fun (acc : List Expr) => do
        let hasRoom := most.all (acc.length < ·)
        if ← onlyIf hasRoom (scan ',') then
          whitespace
          return .again ((← sum).1 :: acc)
        else return .done acc) [first.1]
      if ← isNext ')' then skip
      else if most == some list.length then
        failHere "expected \"+\", \"-\", \"*\", \"/\", or \")\"."
      else failHere "expected \"+\", \"-\", \"*\", \"/\", \",\", or \")\"."
      return list.reverse
  let make (n : CalcName) (args : List Expr) : Reader (Option Placed) := do
    let span ← spanFrom start
    return some (.calculation n args span, span)
  if !(← isNext '(') then return none
  else if lower = ("calc" : Text) then make .calc (← args (some 1))
  else if lower = ("clamp" : Text) then make .clamp (← args (some 3))
  else if lower = ("min" : Text) || lower = ("max" : Text) then
    match ← attempt (args none) with
    | .ok list => make (if lower = ("min" : Text) then .min else .max) list
    | .error _ => return none
  else return none

/-- One operand of a calculation, by the reading of a sum. -/
def calcOperand (sum : Reader Placed) : Reader Placed := do
  let start ← position
  match ← peek with
  | none => failHere "Expected number, variable, function, or calculation."
  | some c =>
    if c == '+' || c == '-' || c == '.' || c.isDigit then number
    else if c == '$' then variableExpr
    else if c == '(' then
      skip
      let (e, span) ←
        match ← calcCode? g with
        | some e => pure (e, ← spanFrom start)
        | none =>
          whitespace
          sum
      whitespace
      expect ')'
      return (.paren e, span)
    else if !(← atName) then failHere "Expected number, variable, function, or calculation."
    else
      let word ← name
      let wordSpan ← spanFrom start
      if ← scan '.' then inSpace g ⟨normalName word, wordSpan⟩ start
      else if !(← isNext '(') then failHere "Expected \"(\" or \".\"."
      else
        let lower := Text.lowerAscii word
        match ← calcOf? g sum lower start with
        | some e => return e
        | none =>
          let args ← arguments g
          let span ← spanFrom start
          if lower = ("if" : Text) then return (.choice args, span)
          else return (.call (normalName word) none args span, span)

/-- Operands with operators between them, from the left. -/
def chain (operand : Reader Placed) (operator : Reader (Option BinaryOp)) : Reader Placed := do
  let first ← operand
  iterate (fun (left : Placed) => do
    match ← operator with
    | none => return .done left
    | some op =>
      skip
      whitespace
      let right ← operand
      let span := left.2.join right.2
      return .again (.binary op left.1 right.1 false span, span)) first

/-- **A sum of a calculation.** The first argument bounds how deep brackets go. -/
def calcSum : Nat → Reader Placed
  | 0 => failHere "Expected number, variable, function, or calculation."
  | n + 1 =>
    let product : Reader Placed := chain (calcOperand g (calcSum n)) do
      whitespace
      match ← peek with
      | some '*' => return some BinaryOp.times
      | some '/' => return some BinaryOp.divide
      | _ => return none
    chain product do
      match ← peek with
      | some c =>
        if c == '+' || c == '-' then
          let before ← previous
          let after ← peekAt 1
          if before.any isBlank && after.any isBlank then
            return some (if c == '+' then BinaryOp.plus else BinaryOp.minus)
          else failHere "\"+\" and \"-\" must be surrounded by whitespace in calculations."
        else return none
      | none => return none

/-- A calculation whose name has been passed. -/
def calculation? (lower : Text) (start : Nat) : Reader (Option Placed) := fun f s =>
  calcOf? g (calcSum g (f.chars.size + 1)) lower start f s

/-! ## Operands -/

/-- A name without the mark of a vendor before it. -/
def withoutVendor (t : Text) : Text :=
  match t with
  | '-' :: c :: r =>
    if c == '-' then t
    else
      match Text.splitFirst? "-" r with
      | some (_, rest) => rest
      | none => t
  | _ => t

/-- A function whose arguments are no expressions. -/
def specialFunction? (lower : Text) (start : Nat) : Reader (Option Placed) := do
  match ← calculation? g lower start with
  | some e => return some e
  | none =>
    let finish (front : Text) : Reader (Option Placed) := do
      let value ← declarationValue g { allowsEmpty := true }
      expect ')'
      let parts := Template.ofPieces (.text front :: value ++ [.text [')']])
      return some (.text parts false, ← spanFrom start)
    let kind := withoutVendor lower
    if kind = ("calc" : Text) || kind = ("element" : Text) || kind = ("expression" : Text) then
      if ← scan '(' then finish (lower ++ ['(']) else return none
    else if kind = ("progid" : Text) then
      if ← scan ':' then
        let word ← takeWhile fun c => c.isAlpha || c == '.'
        expect '('
        finish (lower ++ ':' :: word ++ ['('])
      else return none
    else if kind = ("url" : Text) then
      match ← urlContents? g "url" with
      | some t => return some (.text t false, ← spanFrom start)
      | none => return none
    else return none

/-- The functions that a source without code may not have. -/
def forbiddenFunctions : List Text :=
  List.map String.toList
    ["red", "green", "blue", "mix", "hue", "saturation", "lightness", "complement",
      "adjust-hue", "lighten", "darken", "desaturate", "opacify", "fade-in", "transparentize",
      "fade-out", "adjust-color", "scale-color", "change-color", "ie-hex-str", "unquote",
      "quote", "str-length", "str-insert", "str-index", "str-slice", "to-upper-case",
      "to-lower-case", "unique-id", "percentage", "ceil", "floor", "random", "length", "nth",
      "set-nth", "join", "append", "zip", "index", "list-separator", "is-bracketed", "map-get",
      "map-merge", "map-remove", "map-keys", "map-values", "map-has-key", "keywords",
      "selector-nest", "selector-append", "selector-extend", "selector-replace",
      "selector-unify", "is-superselector", "simple-selectors", "selector-parse",
      "feature-exists", "inspect", "type-of", "unit", "unitless", "comparable", "if",
      "variable-exists", "global-variable-exists", "function-exists", "mixin-exists",
      "content-exists", "get-function", "call"]

/-- A word or a call, in a source without code. -/
def plainNameLike : Reader Placed := do
  let start ← position
  let word ← templateName g
  let plain := (Template.plain? word).getD []
  let lower := Text.lowerAscii plain
  match ← specialFunction? g lower start with
  | some e => return e
  | none =>
    let before ← position
    if !(← scan '(') then return (.text word false, ← spanFrom start)
    else
      let isVar := lower == ("var" : Text)
      let args ←
        if ← scan ')' then pure []
        else
          let list ← iterate (fun (acc : List Expr) => do
            whitespace
            if isVar && acc.length == 1 && (← isNext ')') then
              return .done (.text [] false :: acc)
            else
              let (e, _) ← untilComma g true
              whitespace
              if ← scan ',' then return .again (e :: acc) else return .done (e :: acc)) []
          expect ')'
          pure list.reverse
      if List.elem plain forbiddenFunctions then
        failFrom "This function isn't allowed in plain CSS." before
      else
        let span ← spanFrom start
        return (.plainCall word (.of args [] none none span) span, span)

/-- A word, a call, or a member of a module; `operand` reads the operand of `not`. -/
def nameLike (operand : Reader Placed) : Reader Placed := do
  if ← isPlainCss then plainNameLike g
  else
    let start ← position
    let word ← templateName g
    let span ← spanFrom start
    let plain? := Template.plain? word
    let lower := Text.lowerAscii (plain?.getD [])
    if plain? == some ("if" : Text) && (← isNext '(') then
      let args ← arguments g
      return (.choice args, ← spanFrom start)
    else if plain? == some ("not" : Text) then
      whitespace
      let (e, _) ← operand
      let span ← spanFrom start
      return (.unary .not e span, span)
    else
      let constant? : Option Expr ←
        match plain? with
        | none => pure none
        | some t =>
          if ← isNext '(' then pure none
          else if t = ("null" : Text) then pure (some .null)
          else if t = ("true" : Text) then pure (some (.truth true))
          else if t = ("false" : Text) then pure (some (.truth false))
          else pure ((Color.ofName? t).map .color)
      match constant? with
      | some e => return (e, span)
      | none =>
        let special? ← if plain?.isSome then specialFunction? g lower start else pure none
        match special? with
        | some e => return e
        | none =>
          match ← peek, plain? with
          | some '.', _ =>
            if (← peekAt 1) == some '.' then return (.text word false, span)
            else
              skip
              match plain? with
              | some t => inSpace g ⟨normalName t, span⟩ start
              | none => fail "Interpolation isn't allowed in namespaces." span
          | some '(', some t =>
            let args ← arguments g false (lower == ("var" : Text))
            let span ← spanFrom start
            return (.call (normalName t) none args span, span)
          | some '(', none =>
            let args ← arguments g
            let span ← spanFrom start
            return (.plainCall word args span, span)
          | _, _ => return (.text word false, span)

/-- A colour or a word with a hash before it. -/
def hashExpr (operand : Reader Placed) : Reader Placed := do
  if ← atCode then nameLike g operand
  else
    let start ← position
    expect '#'
    if ← isDigitAt 0 then return (.color (← hexColor), ← spanFrom start)
    else
      let inner ← position
      let word ← templateName g
      let isColor :=
        (Template.plain? word).any fun t =>
          List.elem t.length [3, 4, 6, 8] && t.all fun c => (Text.hexValue? c).isSome
      if isColor then
        seek inner
        return (.color (← hexColor), ← spanFrom start)
      else return (.text (Template.ofPieces (.text ['#'] :: word)) false, ← spanFrom start)

/-- The entries of a map, after its first key and colon. -/
def mapEntries (key : Placed) (start : Nat) : Reader Placed := do
  let (value, _) ← untilComma g false
  let entries ← iterate (fun (acc : List (Placed × Expr)) => do
    if !(← scan ',') then return .done acc
    whitespace
    if !(← atExpression) then return .done acc
    let key ← untilComma g false
    expect ':'
    whitespace
    let (value, _) ← untilComma g false
    return .again ((key, value) :: acc)) [(key, value)]
  expect ')'
  return (.map entries.reverse, ← spanFrom start)

/-- An expression, a list or a map in round brackets. -/
def parens : Reader Placed := do
  let start ← position
  if ← isPlainCss then failHere "Parentheses aren't allowed in plain CSS."
  else
    within (fun s => { s with inParens := true }) (fun s t => { t with inParens := s.inParens }) do
      expect '('
      whitespace
      if !(← atExpression) then
        expect ')'
        return (.list [] .undecided false, ← spanFrom start)
      let first ← untilComma g false
      if ← scan ':' then
        whitespace
        mapEntries g first start
      else if !(← scan ',') then
        expect ')'
        return (.paren first.1, first.2)
      else
        whitespace
        let items ← iterate (fun (acc : List Placed) => do
          if !(← atExpression) then return .done acc
          let e ← untilComma g false
          if ← scan ',' then
            whitespace
            return .again (e :: acc)
          else return .done (e :: acc)) [first]
        expect ')'
        return (.list items.reverse .comma false, ← spanFrom start)

/-- **One operand.** `origin` is where the whole expression begins; the first argument
bounds how many operators stand before it. -/
def operand : Nat → Nat → Reader Placed
  | 0, origin => failFrom "Expected expression." origin
  | n + 1, origin => do
    let unary : Reader Placed := do
      let opSpan ← here
      let op : UnaryOp ←
        match ← peek with
        | some '+' => pure .plus
        | some '-' => pure .minus
        | _ => pure .slash
      if (← isPlainCss) && op != .slash then
        fail "Operators aren't allowed in plain CSS." opSpan
      else
        skip
        whitespace
        let (e, _) ← operand n origin
        let span := opSpan.join (← here)
        return (.unary op e span, span)
    match ← peek with
    | none => failFrom "Expected expression." origin
    | some c =>
      let next ← peekAt 1
      if c == '(' then parens g
      else if c == '/' then unary
      else if c == '[' then g { isBracketed := true }
      else if c == '$' then variableExpr
      else if c == '&' then parentExpr
      else if c == '"' || c == '\'' then
        let start ← position
        let t ← templateString g
        return (.text t true, ← spanFrom start)
      else if c == '#' then hashExpr g (operand n origin)
      else if c == '+' then
        if next.any fun d => d.isDigit || d == '.' then number else unary
      else if c == '-' then
        if next.any fun d => d.isDigit || d == '.' then number
        else if ← atTemplateName then nameLike g (operand n origin)
        else unary
      else if c == '!' then important
      else if (c == 'u' || c == 'U') && next == some '+' then unicodeRange
      else if c.isDigit || c == '.' then number
      else if isNameStart c || c == '\\' then nameLike g (operand n origin)
      else failFrom "Expected expression." origin

/-! ## Operators and lists -/

/-- **What has been read of an expression.** -/
structure Pending where
  /-- The items before commas, the last one first. -/
  commas : Option (List Placed) := none
  /-- The items of a list without commas, the last one first. -/
  spaces : Option (List Placed) := none
  /-- The operators that wait, the last one first. -/
  operators : List BinaryOp := []
  /-- What stands before them, the last one first. -/
  lefts : List Placed := []
  /-- The last operand. -/
  single : Option Placed := none
  /-- A slash may be meant as it is written. -/
  mayBeQuotient : Bool := true

/-- Whether an expression can be a part of a quotient that is meant as it is written. -/
def isQuotientPart : Expr → Bool
  | .number .. => true
  | .calculation .. => true
  | .binary _ _ _ isQuotient _ => isQuotient
  | _ => false

/-- Brings the last operator together with its operands. -/
def Pending.resolveOne (p : Pending) : Reader Pending := do
  match p.operators, p.lefts with
  | op :: operators, left :: lefts =>
    match p.single with
    | none => fail "Expected expression." left.2
    | some right =>
      let span := left.2.join right.2
      let inParens := (← get).inParens
      let isQuotient := p.mayBeQuotient && !inParens && op == BinaryOp.divide
        && isQuotientPart left.1 && isQuotientPart right.1
      return { p with
        operators := operators, lefts := lefts
        single := some (.binary op left.1 right.1 isQuotient span, span)
        mayBeQuotient := p.mayBeQuotient && isQuotient }
  | _, _ => return p

/-- Brings operators together that bind at least as strongly as `rank`. -/
def Pending.resolveTo (rank : Nat) : Nat → Pending → Reader Pending
  | 0, p => return p
  | n + 1, p =>
    match p.operators with
    | op :: _ => if op.rank < rank then return p else do resolveTo rank n (← p.resolveOne)
    | [] => return p

/-- Brings all the operators together. -/
def Pending.resolve (p : Pending) : Reader Pending := p.resolveTo 0 p.operators.length

/-- The items that have no comma between them become one. -/
def Pending.resolveSpaces (p : Pending) : Reader Pending := do
  let p ← p.resolve
  match p.spaces, p.single with
  | some items, some e =>
    let all := (e :: items).reverse
    let span := (all.map (·.2)).foldl Span.join e.2
    return { p with spaces := none, single := some (.list all .space false, span) }
  | _, _ => return p

variable (origin : Nat)

/-- One operand, with as many operators before it as there are characters. -/
def operandHere : Reader Placed := fun f s => operand g (f.chars.size + 1) origin f s

/-- Starts again, as if there were no brackets around. -/
def Pending.reread : Reader Pending := do
  modify fun s => { s with inParens := false }
  seek origin
  return { single := some (← operandHere g origin) }

/-- Takes an operand. -/
def Pending.addOperand (p : Pending) (e : Placed) : Reader Pending := do
  if p.single.isNone then return { p with single := some e }
  else
    let inParens := (← get).inParens
    if inParens then modify fun s => { s with inParens := false }
    if inParens && p.mayBeQuotient then Pending.reread g origin
    else
      let p ← p.resolve
      return { p with
        spaces := some (p.single.toList ++ p.spaces.getD []), single := some e
        mayBeQuotient := true }

/-- Takes an operator and the operand after it. -/
def Pending.addOperator (p : Pending) (op : BinaryOp) (start : Nat) : Reader Pending := do
  let span ← spanFrom start
  if (← isPlainCss) && op != BinaryOp.divide && op != BinaryOp.assign then
    fail "Operators aren't allowed in plain CSS." span
  else
    let p := { p with mayBeQuotient := p.mayBeQuotient && op == BinaryOp.divide }
    let p ← p.resolveTo op.rank p.operators.length
    match p.single with
    | none => fail "Expected expression." span
    | some left =>
      whitespace
      let e ← operandHere g origin
      return { p with
        operators := op :: p.operators, lefts := left :: p.lefts, single := some e }

/-- Takes a comma. -/
def Pending.addComma (p : Pending) : Reader Pending := do
  let inParens := (← get).inParens
  if inParens then modify fun s => { s with inParens := false }
  if inParens && p.mayBeQuotient then Pending.reread g origin
  else
    match p.single with
    | none => failHere "Expected expression."
    | some _ =>
      let p ← p.resolveSpaces
      skip
      return { p with
        commas := some (p.single.toList ++ p.commas.getD []), single := none
        mayBeQuotient := true }

/-- **One step of an expression**: an operand, an operator with its right operand, or a
comma. Nothing is read where the expression ends. -/
def step (a : Ask) (p : Pending) : Reader (Round Pending Pending) := do
  whitespace
  let start ← position
  let takeOperand (r : Reader Placed) : Reader (Round Pending Pending) := do
    let e ← r
    return .again (← p.addOperand g origin e)
  let takeOperator (length : Nat) (op : BinaryOp) : Reader (Round Pending Pending) := do
    seek (start + length)
    return .again (← p.addOperator g origin op start)
  if ← a.stop then return .done p
  else
    match ← peek with
    | none => return .done p
    | some c =>
      let next ← peekAt 1
      let here := operandHere g origin
      if c == '(' || c == '[' || c == '$' || c == '&' || c == '"' || c == '\'' || c == '#' then
        takeOperand here
      else if c == '=' then
        if a.singleEquals && next != some '=' then takeOperator 1 .assign
        else
          skip
          expect '='
          takeOperator 2 .equal
      else if c == '!' then
        match next with
        | some '=' => takeOperator 2 .notEqual
        | some d => if isBlank d || d == 'i' || d == 'I' then takeOperand important else return .done p
        | none => takeOperand important
      else if c == '<' then
        if next == some '=' then takeOperator 2 .lessEqual else takeOperator 1 .less
      else if c == '>' then
        if next == some '=' then takeOperator 2 .greaterEqual else takeOperator 1 .greater
      else if c == '*' then takeOperator 1 .times
      else if c == '+' then
        if p.single.isNone then takeOperand here else takeOperator 1 .plus
      else if c == '-' then
        let before ← previous
        if next.any (fun d => d.isDigit || d == '.') && (p.single.isNone || before.any isBlank) then
          takeOperand number
        else if ← atTemplateName then takeOperand (nameLike g here)
        else if p.single.isNone then takeOperand here
        else takeOperator 1 .minus
      else if c == '/' then
        if p.single.isNone then takeOperand here else takeOperator 1 .divide
      else if c == '%' then takeOperator 1 .modulo
      else if c.isDigit then takeOperand number
      else if c == '.' then
        if next == some '.' then return .done p else takeOperand number
      else if ← onlyIf (c == 'a' && !(← isPlainCss)) (scanName "and") then takeOperator 3 .and
      else if ← onlyIf (c == 'o' && !(← isPlainCss)) (scanName "or") then takeOperator 2 .or
      else if isNameStart c || c == '\\' then takeOperand here
      else if c == ',' then return .again (← p.addComma g origin)
      else return .done p

/-- The expression that has been read. -/
def finish (a : Ask) (p : Pending) : Reader Placed := do
  if a.isBracketed then expect ']'
  match p.commas with
  | some items =>
    let p ← p.resolveSpaces
    let all := (p.single.toList ++ items).reverse
    return (.list all .comma a.isBracketed, ← spanFrom origin)
  | none =>
    match a.isBracketed, p.spaces with
    | true, some items =>
      let p ← p.resolve
      return (.list (p.single.toList ++ items).reverse .space true, ← spanFrom origin)
    | _, _ =>
      let p ← p.resolveSpaces
      match p.single with
      | none => failHere "Expected expression."
      | some e => return if a.isBracketed then (.list [e] .undecided true, e.2) else e

omit origin in
/-- **An expression**, by the reading of the expressions inside of it. -/
def expressionStep (a : Ask) : Reader Placed := do
  let start ← position
  if ← a.stop then failHere "Expected expression."
  else
    if a.isBracketed then
      expect '['
      whitespace
    if ← onlyIf a.isBracketed (scan ']') then return (.list [] .undecided true, ← spanFrom start)
    else
      let origin ← position
      let inParens := (← get).inParens
      let first ← operandHere g origin
      let p ← iterate (step g origin a) { single := some first }
      let (e, _) ← finish origin a p
      modify fun s => { s with inParens := inParens }
      return (e, ← spanFrom start)

end

/-- Expressions inside of each other up to some depth. -/
def expressionWithin : Nat → ExprReader
  | 0 => fun _ => failHere "Expected expression."
  | n + 1 => expressionStep (expressionWithin n)

/-- **An expression**, as it is asked for. -/
def expressionBy : ExprReader := fun a f s => expressionWithin (f.chars.size + 1) a f s

/-- **An expression.** -/
def expression : Reader Placed := expressionBy {}

end ModuleHooks.Sass.Reader
