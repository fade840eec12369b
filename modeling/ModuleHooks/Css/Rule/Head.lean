import ModuleHooks.Css.Rule.Basic
import ModuleHooks.Css.Selector.Reading
import ModuleHooks.Css.Support
/-!
# Heads of rules

What an at-rule says between its name and its block, or the semicolon that stands for it.
What follows the head is read according to it.
-/

namespace ModuleHooks.Css

/-- **How rules are read at some place.** -/
structure Surroundings where
  /-- Classes have local names. -/
  isScoped : Bool
  /-- A style rule is around. -/
  inStyle : Bool := false
  /-- Declarations are allowed. -/
  hasDeclarations : Bool := false

/-- **What the head of an at-rule says.** -/
inductive Head where
  /-- A rule without a block. -/
  | import (written : Text)
  | namespace (written : Text)
  | charset
  | layer (names : List Text)
  /-- The block of a style rule follows. -/
  | nest (selectors : List Selector)
  /-- Rules follow. -/
  | group (written : Written)
  | keyframes (written : Written)
  | fontFace
  | viewTransition
  /-- Declarations follow. -/
  | block (written : Written)
  | page (written : Text)
  /-- The definition of a custom property follows. -/
  | property (name : Text)
  /-- The colours of a palette of a font follow. -/
  | palette (name : Text)
  /-- The names that families of fonts give to features follow. -/
  | featureSets (families : Text)
  | unknown (name written : Text)

namespace Head

/-- Whether a rule may stand in a style rule. -/
def inStyle : Head → Bool
  | .nest _ => true
  | .group _ => true
  | .layer _ => true
  | .unknown _ _ => true
  | _ => false

end Head

namespace Reading

/-- A name or a string for an animation. -/
def keyframesName : Reading Written := do
  let c ← next
  let reserved : List Text := "none".toList :: reservedNames
  match c.head with
  | .ident name =>
    if List.elem (Text.lowerAscii name) reserved then unexpected c else return Written.ofLocal name
  | .string name =>
    if List.elem (Text.lowerAscii name) reserved then return Written.text (writeString name)
    else return Written.ofLocal name
  | _ => unexpected c

/-- The name of a layer: identifiers with dots between them. -/
def layerName : Reading Text := do
  let first ← ident
  let more ← repeated do
    if ← delimHere '.' then
      let c ← nextSpaced
      match c.head with
      | .ident name => return name
      | _ => unexpected c
    else failHere .invalidValue
  return Text.join ['.'] ((first :: more).map writeIdent)

/-- A class of pages, with its colon. -/
def pageClass : Reading Text := do
  let c ← nextSpaced
  if c.head == .colon then
    return ':' :: (← keywordOf (["left", "right", "first", "last", "blank"].map String.toList))
  else unexpected c

/-- The pages that a page rule is for. -/
def pageSelector : Reading Text := do
  let name ← attempt ident
  let classes ← repeated pageClass
  if name.isNone && classes.isEmpty then failHere .invalidPageSelector
  else return (name.map writeIdent).getD [] ++ classes.flatten

/-- A string or a URL. -/
def urlOrString : Reading Text := orTry string Value.url

/-- The URL or the string that is expected, with the usual fault. -/
def expectUrlOrString : Reading Text := do
  let place ← here
  match ← attempt urlOrString with
  | some t => return t
  | none =>
    let c ← next
    fail (.unexpected c.head) place

/-- The layer of an import. -/
def importLayer : Reading Text := do
  match ← attempt (keyword "layer") with
  | some _ => return " layer"
  | none =>
    match ← attempt (functionOf "layer") with
    | some c => return (" layer(" : Text) ++ (← inside c layerName) ++ [')']
    | none => return []

/-- What has to be supported for an import. -/
def importSupport : Reading Text := do
  match ← attempt (functionOf "supports") with
  | some c =>
    inside c do
      match ← attempt supportCondition with
      | some (.declaration d) => return (" supports" : Text) ++ d.write
      | some s => return (" supports(" : Text) ++ s.write ++ [')']
      | none => return (" supports" : Text) ++ (← supportDeclaration).write
  | none => return []

/-- The head of an import. -/
def importHead : Reading Head := do
  let url ← expectUrlOrString
  let layer ← importLayer
  let support ← importSupport
  let media ← mediaQueries
  let media : Text := if media.isEmpty then [] else ' ' :: writeMedia media
  return .import (("@import " : Text) ++ writeString url ++ layer ++ support ++ media ++ [';'])

/-- The head of a namespace. -/
def namespaceHead : Reading Head := do
  let name ← attempt ident
  let url ← expectUrlOrString
  let name : Text := (name.map fun n => writeIdent n ++ [' ']).getD []
  return .namespace (("@namespace " : Text) ++ name ++ writeString url ++ [';'])

/-- The value that a style is asked for: by its tokens where something else than a value
follows them. -/
def styleValue (name : Text) : Reading Text := fun s =>
  let stop (c : Component) : Bool := Stream.isDelim '!' c || Stream.isSemicolon c
  if s.rest.any stop then upTo stop tokenList s
  else
    match Property.value name s with
    | .ok (w, s) => .ok (w.plain, s)
    | .error f => .error f

/-- The mark of importance. -/
def importance : Reading Bool := do
  let mark ← attempt do
    delim '!'
    keyword "important"
  return mark.isSome

/-- A property that a style is asked for, by its name or with its value. -/
def styleFeature : Reading Feature := do
  let name ← ident
  let lower := Text.lowerAscii name
  let shown := if Property.isKnown lower then lower else writeIdent name
  match ← attempt colon with
  | none => return { written := shown, isBare := true }
  | some _ =>
    skipBlanks
    let value ← styleValue lower
    let _ ← importance
    return { written := shown ++ ": ".toList ++ value, isBare := true }

/-- A condition, or a feature whose brackets are those of the function around it. -/
def queryInside (leaves : Leaves) : Reading Condition := do
  match ← attempt (bounded fun n => condition n leaves true) with
  | some c => return c
  | none => return .feature (← leaves.feature)

/-- What is asked of a style, in brackets. -/
def styleCall : Reading Text := do
  return '(' :: (← queryInside { feature := styleFeature }).write false ++ [')']

/-- What is asked of how a box has scrolled, in brackets; a feature has brackets of its
own. -/
def scrollCall : Reading Text := do
  match ← queryInside (Leaves.ofTable scrollFeatures) with
  | .feature f => return f.written
  | c => return '(' :: c.write false ++ [')']

/-- What a function in the head of a container asks for, by its name. -/
def containerCall (name : Text) : Option (Reading Text) :=
  if name = ("style" : Text) then some styleCall
  else if name = ("scroll-state" : Text) then some scrollCall
  else none

/-- The features of a box, its style and how it has scrolled. -/
def containerLeaves : Leaves :=
  { Leaves.ofTable containerFeatures with call := containerCall }

/-- The name of a box. -/
def containerName : Reading Text := do
  let place ← here
  let name ← authorIdent
  let lower := Text.lowerAscii name
  if List.elem lower (["none", "and", "not", "or"].map String.toList) then
    fail (.unexpected (.ident name)) place
  else return name

/-- A condition on a box; beside a name there may be none. -/
def containerCondition (isNamed : Bool) : Reading (Option Condition) := fun s =>
  match (bounded fun n => condition n containerLeaves true) s with
  | .ok (c, s) => .ok (some c, s)
  | .error f => if isNamed && s.isDone then .ok (none, s) else .error f

/-- A box that is asked for something. -/
def containerHead (isScoped : Bool) : Reading Head := do
  let name ← attempt containerName
  let c ← containerCondition name.isSome
  let name : Written :=
    match name with
    | some n => [.text [' '], if isScoped then .local n else .text (writeIdent n)]
    | none => []
  let c : Written :=
    match c with
    | some c => [.text (' ' :: c.write false)]
    | none => []
  return .group (.text "@container" :: name ++ c)

/-- Where a scope begins and where it ends. -/
def scopeHead (isScoped : Bool) : Reading Head := do
  let start ← attempt roundBlock
  let start ←
    match start with
    | some c => some <$> inside c (scopeSelectors isScoped)
    | none => pure none
  let startWritten : Written :=
    match start with
    | some s => .text " (" :: Selector.writeList isScoped s ++ [.text ")"]
    | none => []
  let limit ←
    match ← attempt (keyword "to") with
    | some _ => do
      let c ← roundBlock
      let s ← inside c (scopeSelectors isScoped)
      let s := (start.map (Selector.underSelectors · s)).getD s
      pure (.text " to (" :: Selector.writeList isScoped s ++ [.text ")"])
    | none => pure []
  return .group (.text "@scope" :: startWritten ++ limit)

/-- The layers of a layer rule; there may be none. -/
def layerHead : Reading Head := fun s =>
  match commaSeparated layerName s with
  | .ok (names, r) => .ok (.layer names, r)
  | .error f => if f.mistake = .endOfInput then .ok (.layer [], ⟨[], s.finish⟩) else .error f

/-- The head of a rule that no other rule is around. -/
def topHead (name : Text) (level : Nat) : Option (Reading Head) :=
  if name = ("import" : Text) then
    some (if level > 2 then failHere .lateImport else importHead)
  else if name = ("namespace" : Text) then
    some (if level > 3 then failHere .lateNamespace else namespaceHead)
  else if name = ("charset" : Text) then
    some do
      let _ ← string
      return .charset
  else if name = ("property" : Text) then
    some do return .property (← dashedIdent)
  else none

/-- The names of rules for the steps of an animation. -/
def keyframesNames : List Text :=
  List.map String.toList ["keyframes", "-webkit-keyframes", "-moz-keyframes", "-o-keyframes",
    "-ms-keyframes"]

/-- The head of a rule about fonts, by its name. -/
def fontHead? (name : Text) : Option (Reading Head) :=
  if name = ("font-face" : Text) then some (pure .fontFace)
  else if name = ("font-palette-values" : Text) then
    some do return .palette (← dashedIdent)
  else if name = ("font-feature-values" : Text) then
    some do
      let names ← commaSeparated Value.familyName
      return .featureSets (Text.join ", " (names.map Value.writeFamily))
  else none

/-- The head of a rule with a block of declarations, by its name. -/
def blockHead? (name : Text) : Option (Reading Head) :=
  if name = ("counter-style" : Text) then
    some do return .block [.text "@counter-style ", .local (← authorIdent)]
  else if name = ("position-try" : Text) then
    some do return .block (Written.text (("@position-try " : Text) ++ writeIdent (← dashedIdent)))
  else if name = ("viewport" : Text) || name = ("-ms-viewport" : Text) then
    some (pure (.block (Written.text ('@' :: name))))
  else if name = ("page" : Text) then
    some do
      let pages := (← attempt (commaSeparated pageSelector)).getD []
      return .page
        (if pages.isEmpty then "@page" else ("@page " : Text) ++ Text.join ", " pages)
  else if name = ("view-transition" : Text) then some (pure .viewTransition)
  else if List.elem name keyframesNames then
    some do return .keyframes (.text ('@' :: name ++ [' ']) :: (← keyframesName))
  else none

/-- The head of a rule with rules in its block, by its name. -/
def groupHead? (around : Surroundings) (name : Text) : Option (Reading Head) :=
  if name = ("media" : Text) then
    some do return .group (Written.text (("@media " : Text) ++ writeMedia (← mediaQueries)))
  else if name = ("supports" : Text) then
    some do
      return .group (Written.text (("@supports " : Text) ++ (← supportCondition).write))
  else if name = ("-moz-document" : Text) then
    some do
      let c ← functionOf "url-prefix"
      let _ ← inside c (attempt string)
      return .group (Written.text ("@-moz-document url-prefix()" : Text))
  else if name = ("layer" : Text) then some layerHead
  else if name = ("container" : Text) then some (containerHead around.isScoped)
  else if name = ("starting-style" : Text) then
    some (pure (.group (Written.text ("@starting-style" : Text))))
  else if name = ("scope" : Text) then some (scopeHead around.isScoped)
  else if name = ("nest" : Text) && around.inStyle then
    some do return .nest (← nestSelectors around.isScoped)
  else if name = ("value" : Text) && around.isScoped then some (failHere .valueRule)
  else none

/-- The head of a rule that is not known: its tokens. -/
def unknownHead (shown : Text) : Reading Head := do
  skipBlanks
  return .unknown shown (← tokenList)

/-- **The head of an at-rule** after its name. In a style rule only some rules are known. -/
def head (around : Surroundings) (shown : Text) : Reading Head := do
  let name := Text.lowerAscii shown
  let known := (fontHead? name).orElse fun _ =>
    (blockHead? name).orElse fun _ => groupHead? around name
  let h ← known.getD (unknownHead shown)
  if around.inStyle && !h.inStyle then failHere (.unknownAtRule shown) else return h

end Reading

end ModuleHooks.Css
