import ModuleHooks.Css.Selector.Basic
import ModuleHooks.Css.TokenList
/-!
# Reading selectors

A list of selectors stands between commas. In the lists of `:is` and `:where` a selector
that cannot be read is left out; elsewhere it is a fault. Inside another rule a selector
without `&` is taken to begin with it.
-/

namespace ModuleHooks.Css

/-- **What a selector has to do with the rule around it.** -/
inductive Relation where
  /-- Nothing. -/
  | none
  /-- It is relative to the rule around it. -/
  | implicit
  /-- It names the rule around it somewhere. -/
  | contained
  deriving DecidableEq, Repr

/-- **What was read of a selector so far**, as far as it matters for what can follow. -/
structure SelectorState where
  /-- An `&` was read. -/
  hasNesting : Bool := false
  /-- A slot was read. -/
  afterSlot : Bool := false
  /-- A part was read. -/
  afterPart : Bool := false
  /-- A known pseudo element was read. -/
  afterElement : Bool := false
  /-- A scroll bar was read. -/
  afterScrollbar : Bool := false
  /-- A part of a page that turns into another one was read. -/
  afterTransition : Bool := false
  /-- A pseudo element was read that is not known. -/
  afterUnknown : Bool := false
  /-- Pseudo elements are forbidden. -/
  noElements : Bool := false
  /-- Combinators are forbidden. -/
  noCombinators : Bool := false
  deriving DecidableEq, Repr

namespace SelectorState

/-- Whether what follows can only say more about a pseudo element. -/
def isAfterPseudo (s : SelectorState) : Bool := s.afterElement || s.afterPart || s.afterSlot

/-- Whether a pseudo element can follow. -/
def hasElements (s : SelectorState) : Bool := !s.afterElement && !s.noElements

/-- Whether a part or a slot can follow. -/
def hasParts (s : SelectorState) : Bool := !s.isAfterPseudo && !s.noElements

/-- Whether what follows can ask for the place in the tree. -/
def hasTree (s : SelectorState) : Bool := !s.isAfterPseudo || s.afterUnknown

/-- The state inside a function of selectors. -/
def inner (s : SelectorState) : SelectorState := { s with noElements := true }

/-- The state inside a function of one compound. -/
def innerCompound (s : SelectorState) : SelectorState := { s.inner with noCombinators := true }

/-- The state with what was read inside a function of selectors. -/
def after (s inner : SelectorState) : SelectorState :=
  { s with hasNesting := s.hasNesting || inner.hasNesting }

end SelectorState

namespace Selector

/-- The pseudo classes that follow the user. -/
def userClasses : List Text :=
  List.map String.toList ["hover", "active", "focus", "focus-visible", "focus-within"]

/-- The pseudo classes of scroll bars. -/
def scrollbarClasses : List Text :=
  List.map String.toList ["horizontal", "vertical", "decrement", "increment", "start", "end",
    "double-button", "single-button", "no-button", "corner-present", "window-inactive"]

/-- The other pseudo classes that can follow a scroll bar. -/
def beyondScrollbar : List Text :=
  List.map String.toList ["enabled", "disabled", "hover", "active"]

/-- The pseudo classes that are known; their names are written in lower case. -/
def knownClasses : List Text :=
  userClasses ++ scrollbarClasses ++ List.map String.toList ["current",
    "past", "future", "playing", "paused", "seeking", "stalled", "buffering", "muted",
    "volume-locked", "fullscreen", "-webkit-full-screen", "-moz-full-screen", "-ms-fullscreen",
    "open", "closed", "modal", "picture-in-picture", "popover-open", "defined", "any-link",
    "-webkit-any-link", "-moz-any-link", "link", "local-link", "target", "target-within",
    "visited", "enabled", "disabled", "read-only", "-moz-read-only", "read-write",
    "-moz-read-write", "placeholder-shown", "-moz-placeholder-shown", "-ms-placeholder-shown",
    "default", "checked", "indeterminate", "blank", "valid", "invalid", "in-range",
    "out-of-range", "required", "optional", "user-valid", "user-invalid", "autofill",
    "-webkit-autofill", "-o-autofill", "active-view-transition"]

/-- The pseudo classes that ask for the place in the tree. -/
def treeClasses : List Text :=
  List.map String.toList ["root", "empty", "host", "only-child", "only-of-type"]

/-- The pseudo elements that one colon is enough for. -/
def oldElements : List Text :=
  List.map String.toList ["before", "after", "first-line", "first-letter"]

/-- The pseudo elements of scroll bars. -/
def scrollbarElements : List Text :=
  List.map String.toList ["-webkit-scrollbar", "-webkit-scrollbar-button",
    "-webkit-scrollbar-track", "-webkit-scrollbar-track-piece", "-webkit-scrollbar-thumb",
    "-webkit-scrollbar-corner", "-webkit-resizer"]

/-- The pseudo elements that are known; their names are written in lower case. -/
def knownElements : List Text :=
  List.map String.toList ["details-content",
    "target-text", "search-text", "cue", "cue-region", "selection", "-moz-selection",
    "placeholder", "-webkit-input-placeholder", "-moz-placeholder", "-ms-input-placeholder",
    "marker", "backdrop", "-webkit-backdrop", "file-selector-button",
    "-webkit-file-upload-button", "-ms-browse", "view-transition", "grammar-error",
    "spelling-error", "picker-icon", "checkmark"]

/-- The parts of a page that turns into another one. -/
def transitionElements : List Text :=
  List.map String.toList ["view-transition-group", "view-transition-image-pair",
    "view-transition-old", "view-transition-new"]

/-- A pseudo element without arguments, and what can follow it. -/
def elementOfName (st : SelectorState) (name : Text) : Simple × SelectorState :=
  let lower := Text.lowerAscii name
  if List.elem lower oldElements then
    (.pseudoElement (Written.text (':' :: lower)), { st with afterElement := true })
  else if List.elem lower scrollbarElements then
    (.pseudoElement (Written.text (':' :: ':' :: lower)),
      { st with afterElement := true, afterScrollbar := true })
  else if List.elem lower knownElements then
    (.pseudoElement (Written.text (':' :: ':' :: lower)), { st with afterElement := true })
  else
    (.pseudo (Written.text (':' :: ':' :: writeIdent name)), { st with afterUnknown := true })

/-- The counting of a function. -/
def countingOf? (name : Text) : Option Counting :=
  let table : List (String × Counting) :=
    [("nth-child", .child), ("nth-last-child", .lastChild), ("nth-of-type", .ofType),
      ("nth-last-of-type", .lastOfType), ("nth-col", .column), ("nth-last-col", .lastColumn)]
  (table.find? fun x => x.1.toList == name).map (·.2)

/-- The pseudo class of a name in lower case that asks for the place in the tree. -/
def treeClass? (name : Text) : Option Simple :=
  let table : List (String × Counting) :=
    [("first-child", .child), ("last-child", .lastChild), ("first-of-type", .ofType),
      ("last-of-type", .lastOfType)]
  match table.find? fun x => x.1.toList == name with
  | some (_, kind) => some (.nth kind 0 1)
  | none =>
    if name = ("scope" : Text) then some .scope
    else if List.elem name treeClasses then some (.pseudo (Written.text (':' :: name)))
    else none

end Selector

namespace Reading

open Selector

/-! ## Names -/

/-- A name with the bar that follows its namespace. -/
def afterBar (ns : Namespace) (inAttribute : Bool) : Reading (Namespace × Option Text) := do
  let place ← here
  let c ← nextSpaced
  match c.head with
  | .ident name => return (ns, some name)
  | .delim '*' =>
    if inAttribute then fail (.attributeQualifiedName c.head) place else return (ns, none)
  | t =>
    if inAttribute then fail (.attributeQualifiedName t) place
    else fail (.namespaceToken t) place

/-- A delimiter right here. -/
def delimHere (d : Char) : Reading Bool := fun s =>
  match s.nextSpaced? with
  | some (c, r) => if Stream.isDelim d c then .ok (true, r) else .ok (false, s)
  | none => .ok (false, s)

/-- A name with its namespace; no name stands for any. -/
def qualifiedName (inAttribute : Bool) : Reading (Option (Namespace × Option Text)) := do
  match ← peekSpaced? with
  | none => failHere .endOfInput
  | some c =>
    match c.head with
    | .ident name =>
      let _ ← nextSpaced
      if ← delimHere '|' then return some (← afterBar (.named name) inAttribute)
      else return some (.implicit, some name)
    | .delim '*' =>
      let _ ← nextSpaced
      let place ← here
      if ← delimHere '|' then return some (← afterBar .any inAttribute)
      else if inAttribute then
        let c ← nextSpaced
        fail (.attributeBar c.head) place
      else return some (.implicit, none)
    | .delim '|' =>
      let _ ← nextSpaced
      return some (← afterBar .absent inAttribute)
    | _ => return none

/-- The name of the element of a compound, if it has one; a bar at the end is passed. -/
def elementName : Reading (Option (Namespace × Option Text)) := fun s =>
  match qualifiedName false s with
  | .ok x => .ok x
  | .error f => if f.mistake = .endOfInput then .ok (none, ⟨[], s.finish⟩) else .error f

/-! ## Counting -/

/-- The number after `n-`, when a name ends with one. -/
def afterDash? (name : Text) : Option Int :=
  match name with
  | n :: '-' :: d :: r =>
    if (n = 'n' || n = 'N') && (d :: r).all Char.isDigit then
      some (max (-2147483648) (-(Binary.digitsValue (d :: r) : Int)))
    else none
  | _ => none

/-- The number after a sign. -/
def signless (a sign : Int) : Reading (Int × Int) := do
  let c ← next
  match c.head with
  | .number n =>
    match n.hasSign, n.integer with
    | false, some b => return (a, sign * b)
    | _, _ => unexpected c
  | _ => unexpected c

/-- What is added to `an`. -/
def addend (a : Int) : Reading (Int × Int) := do
  match ← peek? with
  | some c =>
    match c.head with
    | .delim '+' =>
      let _ ← next
      signless a 1
    | .delim '-' =>
      let _ ← next
      signless a (-1)
    | .number n =>
      match n.hasSign, n.integer with
      | true, some b =>
        let _ ← next
        return (a, b)
      | _, _ => return (a, 0)
    | _ => return (a, 0)
  | none => return (a, 0)

/-- A name in a formula, with the factor that its sign stands for. -/
def formulaName (c : Component) (shown name : Text) (a : Int) : Reading (Int × Int) :=
  let lower := Text.lowerAscii name
  if lower = ['n'] then addend a
  else if lower = ['n', '-'] then signless a (-1)
  else
    match afterDash? lower with
    | some b => return (a, b)
    | none => failAfter c (.unexpected (.ident shown))

/-- **The formula `an + b`.** -/
def formula : Reading (Int × Int) := do
  let c ← next
  match c.head with
  | .number n =>
    match n.integer with
    | some b => return (0, b)
    | none => unexpected c
  | .dimension n unit =>
    match n.integer with
    | some a => formulaName c unit unit a
    | none => unexpected c
  | .ident name =>
    let lower := Text.lowerAscii name
    if lower = ("even" : Text) then return (2, 0)
    else if lower = ("odd" : Text) then return (2, 1)
    else
      match name with
      | '-' :: r => formulaName c name r (-1)
      | _ => formulaName c name name 1
  | .delim '+' =>
    let d ← nextSpaced
    match d.head with
    | .ident name => formulaName d name name 1
    | _ => unexpected d
  | _ => unexpected c

/-! ## Attributes -/

/-- The flag of an attribute. -/
def attributeFlag : Reading Text := do
  let place ← here
  match ← attempt next with
  | none => return []
  | some c =>
    match c.head with
    | .ident name =>
      if Text.eqIgnoringCase name ['i'] then return [' ', 'i']
      else if Text.eqIgnoringCase name ['s'] then return [' ', 's']
      else fail (.unexpected c.head) place
    | t => fail (.unexpected t) place

/-- The operator of an attribute. -/
def operatorOf? : Token → Option Text
  | .delim '=' => some ['=']
  | .matcher c => some [c, '=']
  | _ => none

/-- An attribute, inside its brackets. -/
def attributeTest : Reading Simple := do
  skipBlanks
  match ← qualifiedName true with
  | none =>
    let place ← here
    let c ← nextSpaced
    fail (.attributeName c.head) place
  | some (ns, name) =>
    let name := name.getD []
    let ns : Namespace := if ns = .absent then .implicit else ns
    let place ← here
    match ← attempt next with
    | none => return .attribute ns name none []
    | some c =>
      match operatorOf? c.head with
      | none => fail (.attributeOperator c.head) place
      | some op =>
        let place ← here
        let v ← next
        let value ←
          match v.head with
          | .ident t => pure t
          | .string t => pure t
          | t => fail (.attributeValue t) place
        return .attribute ns name (some (op, value)) (← attributeFlag)

/-! ## Selectors -/

/-- Selectors of a function that has no meaning here: its arguments by their tokens. -/
def rawArguments : Reading Text := fun s =>
  match TokenList.writeRaw s.rest with
  | .ok t => .ok (t, ⟨[], s.finish⟩)
  | .error f => .error f

/-- Languages between commas. -/
def languages : Reading Text := do
  let names ← commaSeparated do
    match ← attempt string with
    | some t => return t
    | none => ident
  return Text.join ", " (names.map writeIdent)

/-- A pseudo class that is not about the place in the tree. -/
def stateClass (isScoped : Bool) (st : SelectorState) (place : Place) (name : Text) :
    Reading Simple :=
  let lower := Text.lowerAscii name
  let found : Simple := .pseudo (Written.text
    (':' :: if List.elem lower knownClasses then lower else writeIdent name))
  if isScoped && (lower = ("local" : Text) || lower = ("global" : Text)) then
    fail .ambiguousScope place
  else if st.afterScrollbar then
    if List.elem lower scrollbarClasses || List.elem lower beyondScrollbar then return found
    else fail .pseudoClassAfterScrollbar place
  else if st.afterElement then
    if List.elem lower userClasses then return found else fail .pseudoClassAfterElement place
  else if List.elem lower scrollbarClasses then fail .scrollbarClassAlone place
  else return found

/-- A pseudo class without arguments. -/
def pseudoClass (isScoped : Bool) (st : SelectorState) (place : Place) (name : Text) :
    Reading Simple :=
  let lower := Text.lowerAscii name
  if st.afterSlot then fail .invalidState place
  else
    match if st.hasTree then treeClass? lower else none with
    | some s => return s
    | none =>
      if st.afterTransition && lower = ("only-child" : Text) then
        return .pseudo (Written.text ":only-child")
      else stateClass isScoped st place name

/-- A name with a dot in front, as the part of a page has it. -/
def transitionClass : Reading Written := do
  let c ← nextSpaced
  if !Stream.isDelim '.' c then failHere .invalidState
  else
    let d ← attempt nextSpaced
    match d.bind Stream.identOf? with
    | some name => return [.text ['.'], .local name]
    | none => failHere .invalidState

/-- Classes up to the end. The first argument bounds their number. -/
def transitionClasses : Nat → Reading Written
  | 0 => failHere .tooDeep
  | n + 1 => do
    match ← peekSpaced? with
    | none => return []
    | some _ =>
      let first ← transitionClass
      return first ++ (← transitionClasses n)

/-- A part of a page that turns into another one: a name or a star, and classes. -/
def transitionPart : Reading Written := do
  skipBlanks
  let star : Reading Written := do
    delim '*'
    return Written.text ['*']
  let name ← attempt (orTry star do return Written.ofLocal (← authorIdent))
  let classes ← transitionClasses ((← get).rest.length + 1)
  return name.getD [] ++ classes

/-- The combinator between two compounds, if there is one. -/
def combinatorHere : Reading (Option Combinator) := do
  let c ← peekSpaced?
  let spaced := (c.map Component.isSpace).getD false
  match ← peek? with
  | none => return none
  | some d =>
    if Stream.isDelim '>' d then
      let _ ← next
      return some .child
    else if Stream.isDelim '+' d then
      let _ ← next
      return some .nextSibling
    else if Stream.isDelim '~' d then
      let _ ← next
      return some .laterSibling
    else if spaced then
      skipBlanks
      return some .descendant
    else return none

/-- A pseudo element without arguments. -/
def elementWord (st : SelectorState) (name : Text) :
    Reading (Option (Simple × SelectorState)) :=
  if st.hasElements then return some (elementOfName st name) else failHere .invalidState

/-- A pseudo element whose arguments are no selectors, by its name in lower case. -/
def elementArguments? (name : Text) : Option (Reading Written) :=
  if name = ("highlight" : Text) then some do return Written.ofLocal (← authorIdent)
  else if name = ("picker" : Text) then some do return Written.text (writeIdent (← ident))
  else if List.elem name transitionElements then some transitionPart
  else none

/-- A pseudo class whose arguments are no selectors, by its name in lower case and as it is
written otherwise. -/
def classArguments (lower shown : Text) : Reading Written :=
  if lower = (":lang" : Text) then do return Written.call lower (Written.text (← languages))
  else if lower = (":dir" : Text) then do
    return Written.call lower
      (Written.text (← keywordOf (["ltr", "rtl"].map String.toList)))
  else if lower = (":active-view-transition-type" : Text) then do
    let names ← commaSeparated do return Written.ofLocal (← authorIdent)
    return Written.call lower (Written.joined ", " names)
  else do return Written.call shown (Written.text (← rawArguments))

/-- The namespace of an element as far as it has to be told. -/
def told (ns : Namespace) : Namespace := if ns = .any then .implicit else ns

/-- The next component, left where it is. -/
def front : Reading Component := do
  match ← peek? with
  | some c => return c
  | none => next

mutual

/-- One simple selector, if one stands here. The first argument bounds the depth. -/
def simple : Nat → Bool → SelectorState → Reading (Option (Simple × SelectorState))
  | 0, _, _ => failHere .tooDeep
  | n + 1, isScoped, st => do
    let before ← here
    match ← peekSpaced? with
    | none => return none
    | some c =>
      match c.head with
      | .idHash name =>
        let _ ← nextSpaced
        if st.isAfterPseudo then fail (.selectorAfterElement c.head) before
        else return some (.id name, st)
      | .delim '&' =>
        let _ ← nextSpaced
        if st.isAfterPseudo then fail (.selectorAfterElement c.head) before
        else return some (.nesting, { st with hasNesting := true })
      | .delim '.' =>
        let _ ← nextSpaced
        if st.isAfterPseudo then fail (.selectorAfterElement c.head) before
        else
          let place ← here
          let d ← nextSpaced
          match d.head with
          | .ident name => return some (.class name, st)
          | t => fail (.classNeedsIdent t) place
      | .opening .square =>
        let _ ← nextSpaced
        if st.isAfterPseudo then fail (.selectorAfterElement c.head) before
        else return some (← inside c attributeTest, st)
      | .colon =>
        let _ ← nextSpaced
        let place ← here
        let d ← nextSpaced
        if d.head == .colon then
          let e ← nextSpaced
          match e.head with
          | .ident name => elementWord st name
          | .function name => elementCall n isScoped st name e
          | t => failAfter e (.pseudoNeedsIdent t)
        else
          match d.head with
          | .ident name =>
            if List.elem (Text.lowerAscii name) oldElements then elementWord st name
            else return some (← pseudoClass isScoped st place name, st)
          | .function name =>
            if List.elem (Text.lowerAscii name) oldElements then elementCall n isScoped st name d
            else classCall n isScoped st name d
          | t => failAfter d (.pseudoNeedsIdent t)
      | _ => return none

/-- A pseudo element with arguments. -/
def elementCall : Nat → Bool → SelectorState → Text → Component →
    Reading (Option (Simple × SelectorState))
  | 0, _, _, _, _ => failHere .tooDeep
  | n + 1, isScoped, st, name, c =>
    let lower := Text.lowerAscii name
    let known : SelectorState := { st with afterElement := true }
    if !st.hasElements then failAfter c .invalidState
    else if lower = ("part" : Text) then
      if !st.hasParts then failAfter c .invalidState
      else do
        let names ← inside c do
          let first ← ident
          return first :: (← repeated ident)
        return some (.pseudo (Written.text
          (("::part(" : Text) ++ Text.join " " (names.map writeIdent) ++ [')'])),
          { st with afterPart := true })
    else if lower = ("slotted" : Text) then
      if !st.hasParts then failAfter c .invalidState
      else do
        let (s, inner) ← inside c (chain n isScoped .none st.innerCompound)
        return some (.matching "::slotted" [s], { st.after inner with afterSlot := true })
    else if lower = ("cue" : Text) || lower = ("cue-region" : Text) then do
      let (s, _) ← inside c (chain n isScoped .none {})
      return some (.matching (':' :: ':' :: lower) [s], known)
    else
      match elementArguments? lower with
      | some r => do
        let w ← inside c r
        return some (.pseudoElement (Written.call (':' :: ':' :: lower) w),
          { known with afterTransition := List.elem lower transitionElements })
      | none => do
        let t ← inside c rawArguments
        return some (.pseudo (Written.text (':' :: ':' :: writeIdent name ++ '(' :: t ++ [')'])),
          { st with afterUnknown := true })

/-- A pseudo class with arguments. -/
def classCall : Nat → Bool → SelectorState → Text → Component →
    Reading (Option (Simple × SelectorState))
  | 0, _, _, _, _ => failHere .tooDeep
  | n + 1, isScoped, st, name, c =>
    let lower := Text.lowerAscii name
    match countingOf? lower with
    | some kind =>
      if !st.hasTree then inside c (failHere .invalidState)
      else
        inside c do
          let (a, b) ← formula
          if kind = .child || kind = .lastChild then
            match ← attempt (keyword "of") with
            | some _ =>
              let (among, inner) ← selectorList n isScoped true .none st.inner
              return some (.nthOf kind a b among, st.after inner)
            | none => return some (.nth kind a b, st)
          else return some (.nth kind a b, st)
    | none =>
      if lower = ("is" : Text) then do
        let (any, inner) ← inside c (selectorList n isScoped true .none st.inner)
        return some (.is any, st.after inner)
      else if List.elem lower (["where", "-webkit-any", "-moz-any"].map String.toList) then do
        let (any, inner) ← inside c (selectorList n isScoped true .none st.inner)
        return some (.matching (':' :: lower) any, st.after inner)
      else if lower = ("not" : Text) then do
        let (any, inner) ← inside c (selectorList n isScoped false .none st.inner)
        return some (.matching ":not" any, st.after inner)
      else if lower = ("has" : Text) then do
        let (any, inner) ← inside c (relativeList n isScoped true .none st)
        return some (.has any, st.after inner)
      else if lower = ("host" : Text) then
        if !st.hasTree then inside c (failHere .invalidState)
        else do
          let (s, inner) ← inside c (chain n isScoped .none st.innerCompound)
          return some (.matching ":host" [s], st.after inner)
      else if st.isAfterPseudo then inside c (failHere .invalidState)
      else if isScoped && lower = ("global" : Text) then do
        let (s, _) ← inside c (chain n isScoped .none {})
        return some (.global s, st)
      else if isScoped && lower = ("local" : Text) then do
        let (s, _) ← inside c (chain n isScoped .none {})
        return some (.local s, st)
      else do
        let w ← inside c (classArguments (':' :: lower) (':' :: writeIdent name))
        return some (.pseudo w, st)

/-- The simple selectors of a compound after the name of its element. -/
def simples : Nat → Bool → SelectorState → Reading (List Simple × SelectorState)
  | 0, _, _ => failHere .tooDeep
  | n + 1, isScoped, st => do
    match ← simple n isScoped st with
    | none => return ([], st)
    | some (s, st) =>
      let (more, st) ← simples n isScoped st
      return (s :: more, st)

/-- A compound, which may be empty. -/
def compound : Nat → Bool → SelectorState → Reading (List Simple × SelectorState)
  | 0, _, _ => failHere .tooDeep
  | n + 1, isScoped, st => do
    skipBlanks
    if ← isDone then return ([], st)
    else
      let name ← elementName
      if name.isSome && st.isAfterPseudo then failHere .invalidState
      else
        let first : List Simple :=
          match name with
          | some (ns, some name) => [.element (told ns) name]
          | some (ns, none) => [.universal (told ns)]
          | none => []
        let (more, st) ← simples n isScoped st
        return (first ++ more, st)

/-- The compounds of a chain. -/
def compounds : Nat → Bool → SelectorState → Option Combinator →
    Reading (Selector × SelectorState)
  | 0, _, _, _ => failHere .tooDeep
  | n + 1, isScoped, st, before => do
    let (parts, st) ← compound n isScoped st
    if parts.isEmpty then
      failHere (if before.isSome then .danglingCombinator else .emptySelector)
    else if st.isAfterPseudo then return ([(before, parts)], st)
    else
      match ← combinatorHere with
      | none => return ([(before, parts)], st)
      | some k =>
        if st.noCombinators then failHere .invalidState
        else
          let (more, st) ← compounds n isScoped st (some k)
          return ((before, parts) :: more, st)

/-- A chain. -/
def chain : Nat → Bool → Relation → SelectorState → Reading (Selector × SelectorState)
  | 0, _, _, _ => failHere .tooDeep
  | n + 1, isScoped, relation, st => do
    let (s, st) ← compounds n isScoped st none
    if relation = .implicit && !st.hasNesting then
      match s with
      | (_, parts) :: more => return ((none, [.nesting]) :: (some .descendant, parts) :: more, st)
      | [] => return (s, st)
    else if relation = .contained && !st.hasNesting then failHere .missingNesting
    else return (s, st)

/-- A chain that can begin with a combinator. -/
def relativeChain : Nat → Bool → Relation → SelectorState → Reading (Selector × SelectorState)
  | 0, _, _, _ => failHere .tooDeep
  | n + 1, isScoped, relation, st => do
    let c ← front
    let lead : Option Combinator :=
      match c.head with
      | .delim '>' => some .child
      | .delim '+' => some .nextSibling
      | .delim '~' => some .laterSibling
      | _ => none
    match lead with
    | none => chain n isScoped relation st
    | some k =>
      let _ ← next
      let (s, st) ← chain n isScoped .none st
      match s with
      | (_, parts) :: more =>
        let start : Simple := if relation = .implicit then .nesting else .scope
        return ((none, [start]) :: (some k, parts) :: more, st)
      | [] => return (s, st)

/-- Selectors between commas; those that cannot be read are left out if `forgiving`. -/
def selectorList : Nat → Bool → Bool → Relation → SelectorState →
    Reading (List Selector × SelectorState)
  | 0, _, _, _, _ => failHere .tooDeep
  | n + 1, isScoped, forgiving, relation, st =>
    selectorsFrom n isScoped forgiving (fun st => chain n isScoped relation st) st

/-- Selectors between commas that can begin with a combinator. -/
def relativeList : Nat → Bool → Bool → Relation → SelectorState →
    Reading (List Selector × SelectorState)
  | 0, _, _, _, _ => failHere .tooDeep
  | n + 1, isScoped, forgiving, relation, st =>
    selectorsFrom n isScoped forgiving (fun st => relativeChain n isScoped relation st) st

/-- Selectors between commas, each read in the same way. -/
def selectorsFrom : Nat → Bool → Bool →
    (SelectorState → Reading (Selector × SelectorState)) → SelectorState →
    Reading (List Selector × SelectorState)
  | 0, _, _, _, _ => failHere .tooDeep
  | n + 1, isScoped, forgiving, r, st => do
    let one := upTo Stream.isComma (r st)
    let found : Option (Selector × SelectorState) ←
      if forgiving then attempt one else some <$> one
    if found.isNone then skipTo Stream.isComma
    let nested := (found.map (·.2.hasNesting)).getD false
    let mine : List Selector := (found.map fun x => [x.1]).getD []
    match ← attempt comma with
    | none => return (mine, { st with hasNesting := st.hasNesting || nested })
    | some _ =>
      let (more, last) ← selectorsFrom n isScoped forgiving r st
      return (mine ++ more,
        { st with hasNesting := st.hasNesting || nested || last.hasNesting })

end

/-- **The selectors of a rule.** -/
def selectors (isScoped : Bool) : Reading (List Selector) :=
  bounded fun n => do return (← selectorList n isScoped false .none {}).1

/-- **The selectors of a rule inside another one.** -/
def nestedSelectors (isScoped : Bool) : Reading (List Selector) :=
  bounded fun n => do return (← relativeList n isScoped false .implicit {}).1

/-- **The selectors of a rule inside another one** that have to name it. -/
def nestSelectors (isScoped : Bool) : Reading (List Selector) :=
  bounded fun n => do return (← selectorList n isScoped false .contained {}).1

/-- The selectors between which a scope lies. -/
def scopeSelectors (isScoped : Bool) : Reading (List Selector) :=
  bounded fun n => do return (← relativeList n isScoped true .none {}).1

end Reading

end ModuleHooks.Css
