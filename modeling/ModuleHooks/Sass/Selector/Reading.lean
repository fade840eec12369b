import ModuleHooks.Sass.Selector.Basic
import ModuleHooks.Sass.Template
/-!
# Reading selectors

A selector is read from a text that was made from a template. Where nothing better is
known, a fault is told at the whole selector.
-/

namespace ModuleHooks.Sass.Reader

/-- What a selector may have. -/
structure SelectorRules where
  /-- The selector around may be named. -/
  allowsParent : Bool
  /-- Placeholders may be named. -/
  allowsPlaceholder : Bool

/-- A fault at the whole text. -/
def failWhole {α : Type} (message : Text) : Reader α := fun f _ =>
  .error (.misplaced message f.span)

/-- There is no code in a selector. -/
def noCode : ExprReader := fun _ => failHere "Expected expression."

/-- A value up to a closing bracket. -/
def rawValue : Reader Text := do
  return ((Template.plain? (← declarationValue noCode { allowsEmpty := true })).getD [])

/-- The name of an attribute, or of an element, with its namespace. -/
def qualifiedName : Reader (Space × Text) := do
  if ← isNext '*' then
    skip
    expect '|'
    return (.any, ← name)
  else
    let first ← name
    match ← peek with
    | some '|' =>
      if (← peekAt 1) == some '=' then return (.default, first)
      else
        skip
        return (.named first, ← name)
    | some _ => return (.default, first)
    | none => failWhole "expected more input."

/-- An attribute, after its opening bracket. -/
def attributeSelector : Reader Simple := do
  whitespace
  let (space, n) ← qualifiedName
  whitespace
  if ← scan ']' then return .attribute space n [] [] none
  else
    let operator : Text ←
      match ← peek with
      | some '=' =>
        skip
        pure ['=']
      | some c =>
        if List.elem c "~|^$*".toList then
          skip
          expect '='
          pure [c, '=']
        else failHere "Expected \"]\"."
      | none => failWhole "expected more input."
    whitespace
    let value : Text ←
      match ← peek with
      | some c => if c == '"' || c == '\'' then string else name
      | none => failWhole "expected more input."
    whitespace
    let modifier : Option Char ←
      match ← peek with
      | some c =>
        if c.isAlpha then
          skip
          whitespace
          pure (some c)
        else pure none
      | none => pure none
    expect ']'
    return .attribute space n operator value modifier

/-- The pseudo-classes that hold selectors. -/
def selectorClasses : List Text :=
  List.map String.toList
    ["not", "is", "matches", "where", "current", "any", "has", "host", "host-context"]

/-- The pseudo-elements that are written with one colon as well. -/
def oldElements : List Text :=
  List.map String.toList ["after", "before", "first-line", "first-letter"]

/-- A sum of a multiple and a number, as children are counted. -/
def countedChild : Reader Text := do
  let word (t : Text) : Reader Text := do
    expectName t
    return t
  match ← peek with
  | some 'e' | some 'E' => word "even"
  | some 'o' | some 'O' => word "odd"
  | c =>
    let sign : Text ←
      if c == some '+' || c == some '-' then
        skip
        pure c.toList
      else pure []
    let digits ← takeWhile Char.isDigit
    let afterDigits ← position
    if !digits.isEmpty then whitespace
    let hasN ←
      if digits.isEmpty then
        expectLetter
        pure true
      else scanWord false "n"
    if !hasN then
      seek afterDigits
      return sign ++ digits
    else
      let front := sign ++ digits ++ ['n']
      let before ← position
      whitespace
      match ← peek with
      | some c =>
        if c == '+' || c == '-' then
          skip
          whitespace
          let more ← takeWhile Char.isDigit
          if more.isEmpty then failHere "Expected a number."
          else return front ++ [c] ++ more
        else
          seek before
          return front
      | none => return front
where
  /-- The letter of a multiple. -/
  expectLetter : Reader Unit := do
    if ← scanWord false "n" then return () else failHere "Expected \"n\"."

/-- A pseudo-class or a pseudo-element, after its first colon, by the reading of the
selector inside. -/
def pseudoSelector (list : Reader Selector) : Reader Simple := do
  let isElement ← scan ':'
  let word ← name
  let isClass := !isElement && !List.elem (Text.lowerAscii word) oldElements
  if !(← scan '(') then return .pseudo word isClass (!isElement) none none
  else
    whitespace
    let kind := unvendored word
    let make (argument : Option Text) (inner : Option Selector) : Reader Simple := do
      expect ')'
      return .pseudo word isClass (!isElement) argument inner
    if isElement then
      if kind = ("slotted" : Text) then
        let inner ← list
        whitespace
        make none (some inner)
      else make (some (← rawValue)) none
    else if List.elem kind selectorClasses then
      let inner ← list
      whitespace
      make none (some inner)
    else if kind = ("nth-child" : Text) || kind = ("nth-last-child" : Text) then
      let argument ← countedChild
      let before ← position
      whitespace
      if (← position) != before && !(← isNext ')') then
        expectName "of"
        whitespace
        make (some (argument ++ " of".toList)) (some (← list))
      else make (some argument) none
    else make (some (Text.trimEnd isBlank (← rawValue))) none

/-- An element, or all elements, with a namespace. -/
def elementSelector : Reader Simple := do
  if ← scan '*' then
    if !(← scan '|') then return .universal .default
    else if ← scan '*' then return .universal .any
    else return .element .any (← name)
  else if ← scan '|' then
    if ← scan '*' then return .universal .empty else return .element .empty (← name)
  else
    let first ← name
    if !(← scan '|') then return .element .default first
    else if ← scan '*' then return .universal (.named first)
    else return .element (.named first) (← name)

section

variable (rules : SelectorRules) (list : Reader Selector)

/-- **A simple selector.** -/
def simpleSelector (mayBeParent : Bool) : Reader Simple := do
  match ← peek with
  | some '[' =>
    skip
    attributeSelector
  | some '.' =>
    skip
    return .className (← name)
  | some '#' =>
    skip
    return .id (← name)
  | some '%' =>
    skip
    if rules.allowsPlaceholder then return .placeholder (← name)
    else failWhole "Placeholder selectors aren't allowed here."
  | some ':' =>
    skip
    pseudoSelector list
  | some '&' =>
    if !(mayBeParent && rules.allowsParent) then
      failWhole "Parent selectors aren't allowed here."
    else
      skip
      return .parent (← nameRest false)
  | _ => elementSelector

/-- A compound selector. -/
def compoundSelector : Reader (List Simple) := do
  let first ← simpleSelector rules list true
  let rest ← iterate (fun (acc : List Simple) => do
    match ← peek with
    | some c =>
      if List.elem c "*[.#%:".toList then
        return .again ((← simpleSelector rules list false) :: acc)
      else return .done acc
    | none => return .done acc) [first]
  return rest.reverse

/-- A complex selector. -/
def complexSelector (onNewLine : Bool) : Reader Complex := do
  let limbs ← iterate (fun (acc : List Limb) => do
    whitespace
    match ← peek with
    | none => return .done acc
    | some c =>
      let combinator (k : Combinator) : Reader (Round (List Limb) (List Limb)) := do
        skip
        return .again (.combinator k :: acc)
      if c == '+' then combinator .next
      else if c == '>' then combinator .child
      else if c == '~' then combinator .following
      else if List.elem c "[.#%:*|&".toList || (← atName) then
        let ss ← compoundSelector rules list
        if ← isNext '&' then
          failWhole "\"&\" may only used at the beginning of a compound selector."
        else return .again (.compound ss :: acc)
      else return .done acc) []
  if limbs.isEmpty then failWhole "expected selector."
  else return .of limbs.reverse onNewLine

/-- A list of complex selectors. A comma may be repeated, and may stand at the end. -/
def selectorList : Reader Selector := do
  let first ← complexSelector rules list false
  whitespace
  let all ← iterate (fun ((acc, onNewLine) : List Complex × Bool) => do
    if !(← scan ',') then return .done acc
    else
      let gap ← textOf whitespace
      let onNewLine := onNewLine || List.elem '\n' gap
      match ← peek with
      | some ',' => return .again (acc, onNewLine)
      | none => return .done acc
      | some _ =>
        let c ← complexSelector rules list onNewLine
        whitespace
        return .again (c :: acc, false)) ([first], false)
  return all.reverse

end

/-- Lists of selectors inside of each other up to some depth. -/
def selectorWithin (rules : SelectorRules) : Nat → Reader Selector
  | 0 => failWhole "expected selector."
  | n + 1 => selectorList rules (selectorWithin rules n)

/-- A whole text is a selector. -/
def wholeSelector (rules : SelectorRules) : Reader Selector := do
  let n := (← read).chars.size
  let s ← selectorWithin rules (n + 1)
  if ← isDone then return s else failWhole "expected selector."

/-- A place of an animation. -/
def keyframe : Reader Text := do
  if ← atName then
    if ← scanName "to" then return "to"
    else if ← scanName "from" then return "from"
    else failHere "Expected \"to\" or \"from\"."
  else
    let sign : Text ← if ← scan '+' then pure ['+'] else pure []
    if !((← peek).any fun c => c.isDigit || c == '.') then failHere "Expected number."
    else
      let digits ← takeWhile Char.isDigit
      let places : Text ←
        if ← scan '.' then pure ('.' :: (← takeWhile Char.isDigit)) else pure []
      let power : Text ←
        if ← scanWord false "e" then
          let sign : Text ←
            match ← peek with
            | some c => if c == '+' || c == '-' then skip; pure [c] else pure []
            | none => pure []
          let digits ← takeWhile Char.isDigit
          if digits.isEmpty then failHere "Expected digit." else pure ('e' :: sign ++ digits)
        else pure []
      expect '%'
      return sign ++ digits ++ places ++ power ++ ['%']

/-- Places of an animation with commas between them. -/
def keyframes : Reader (List Text) := do
  let list ← iterate (fun (acc : List Text) => do
    whitespace
    let k ← keyframe
    whitespace
    if ← scan ',' then return .again (k :: acc) else return .done (k :: acc)) []
  return list.reverse

end ModuleHooks.Sass.Reader

namespace ModuleHooks.Sass

/-- **Reads a selector** from a text that was made from a stretch of a source. -/
def Selector.read (t : Text) (span : Span) (allowsParent allowsPlaceholder : Bool) :
    Except Fault Selector :=
  (Reader.wholeSelector ⟨allowsParent, allowsPlaceholder⟩ (Feed.ofText t span) {}).map (·.1)

/-- Reads the places of an animation. -/
def readKeyframes (t : Text) (span : Span) : Except Fault (List Text) :=
  (Reader.keyframes (Feed.ofText t span) {}).map (·.1)

end ModuleHooks.Sass
