import ModuleHooks.Css.Rule.Head
import ModuleHooks.Css.ValueGrammar
/-!
# Blocks of declarations

The blocks that hold no style rules: declarations, the steps of an animation, the
descriptions of fonts and of custom properties, pages with the boxes in their margins. The
items of such a block are read one after the other; in some blocks an item that cannot be
read is left out, in the others it is a fault.
-/

namespace ModuleHooks.Css

/-- **How the items of a block are read**, each adding to what was read so far. -/
structure Items (α : Type) where
  /-- The value of a declaration, by the name that it is for. -/
  declaration : Text → α → Reading α
  /-- A rule inside the block, after its name. -/
  atRule : Text → α → Reading α := fun name _ => Reading.failHere (.unknownAtRule name)
  /-- Whether items that cannot be read are left out. -/
  isLenient : Bool := false

namespace Reading

/-- Whether the head of a rule ends at a component. -/
def endsHead (c : Component) : Bool := Stream.isCurly c || Stream.isSemicolon c

/-- Passes an item that cannot be read. -/
def skipItem (c : Component) : Reading Unit := do
  match c.head with
  | .atKeyword _ =>
    skipTo endsHead
    let _ ← attempt next
  | _ => skipTo Stream.isSemicolon

/-- One item of a block, which begins with a component. -/
def item {α : Type} (r : Items α) (c : Component) (a : α) : Reading α :=
  match c.head with
  | .ident name =>
    upTo Stream.isSemicolon do
      let _ ← next
      colon
      r.declaration name a
  | .atKeyword name => do
    let _ ← next
    r.atRule name a
  | t => fail (.unexpected t) c.place

/-- The items of a block. The last but one argument bounds their number. -/
def itemsFrom {α : Type} (r : Items α) : Nat → α → Reading α
  | 0, a => return a
  | n + 1, a => do
    skipBlanks
    match ← peek? with
    | none => return a
    | some c =>
      if Stream.isSemicolon c then
        let _ ← next
        itemsFrom r n a
      else if r.isLenient then
        match ← attempt (item r c a) with
        | some b => itemsFrom r n b
        | none =>
          skipItem c
          itemsFrom r n a
      else itemsFrom r n (← item r c a)

/-- **The items of a block.** -/
def items {α : Type} (r : Items α) (a : α) : Reading α := fun s =>
  itemsFrom r (s.rest.length + 1) a s

/-! ## Declarations -/

/-- The source of a composition. -/
def composesSource : Reading (Option Text × Bool) := do
  match ← attempt (keyword "from") with
  | none => return (none, false)
  | some _ =>
    match ← attempt string with
    | some file => return (some file, false)
    | none =>
      keyword "global"
      return (none, true)

/-- A name that a class is composed with. -/
def composesName : Reading Text := do
  let name ← authorIdent
  if Text.eqIgnoringCase name "from" then failHere .invalidDeclaration else return name

/-- The names that a class is composed with. -/
def composes : Reading Declaration := do
  let place ← here
  let first ← composesName
  let more ← repeated composesName
  let (source, isGlobal) ← composesSource
  finished
  return .composes (first :: more) source isGlobal place

/-- The value of a declaration, up to a mark of importance. -/
def declared (isScoped : Bool) (name : Text) : Reading Declaration := do
  let lower := Text.lowerAscii name
  let unread : Reading Declaration := do
    let shown := if Property.isKnown lower then lower else name
    return .property shown (← Property.value lower)
  if isScoped && lower = ("composes" : Text) then orTry composes unread else unread

/-- **The value of a declaration** by its name, with the mark of importance. -/
def declarationValue (isScoped : Bool) (name : Text) : Reading (Bool × Declaration) := do
  let isCustom := Text.startsWith name "--"
  let stop (c : Component) : Bool := Stream.isDelim '!' c || (!isCustom && Stream.isCurly c)
  let d ← upTo stop (declared isScoped name)
  return (← importance, d)

/-- Declarations as the items of a block. -/
def declarationItems (isScoped : Bool) : Items Declarations :=
  { declaration := fun name d => do
      let (isImportant, x) ← declarationValue isScoped name
      return d.add isImportant x }

/-- **The declarations of a block.** -/
def declarations (isScoped : Bool) : Reading Declarations := items (declarationItems isScoped) {}

/-! ## Animations -/

/-- A step of an animation: how much of it has passed, in all or in a part of a way. -/
def stepName : Reading Text := do
  let share : Reading Text := do
    return (← simpleQuantity Dimension.percentage).write false
  match ← attempt share with
  | some t => return t
  | none =>
    match ← attempt do
        let name ← keywordOf (Value.rangeNames.map String.toList)
        return name ++ ' ' :: (← share) with
    | some t => return t
    | none => keywordOf (["from", "to"].map String.toList)

/-- **The steps of an animation**; those that cannot be read are left out. No composition is
among their declarations. The first argument bounds their number. -/
def steps : Nat → Reading (List (Text × Declarations))
  | 0 => return []
  | n + 1 => do
    skipBlanks
    match ← peek? with
    | none => return []
    | some c =>
      match c.head with
      | .semicolon =>
        let _ ← next
        steps n
      | .atKeyword _ =>
        skipItem c
        steps n
      | _ =>
        let names ← attempt (upTo Stream.isCurly (commaSeparated stepName))
        if names.isNone then skipTo Stream.isCurly
        match ← attempt next with
        | none => return []
        | some block =>
          let body ← attempt (inside block (declarations false))
          let more ← steps n
          match names, body with
          | some names, some d => return (Text.join ", " names, d) :: more
          | _, _ => return more

/-! ## Descriptions -/

/-- Descriptions as the items of a block: the value of a known name is read as that name
asks for, and by its tokens where it cannot be read so. -/
def descriptionItems (reading? : Text → Option ValueReading) : Items Declarations :=
  { isLenient := true
    declaration := fun name d => do
      let lower := Text.lowerAscii name
      let stop (c : Component) : Bool := Stream.isDelim '!' c
      let unread : Reading Declaration := do
        return .property name (Written.text (← upTo stop tokenList))
      let x ← match reading? lower with
        | some r => orTry (do return .property lower (← r)) unread
        | none => unread
      return d.add false x }

/-- The notations that files of fonts are told apart by. -/
def fontFormats : List Text :=
  List.map String.toList ["woff", "woff2", "truetype", "opentype", "embedded-opentype",
    "collection", "svg"]

/-- The features that a file of a font needs. -/
def fontTechnologies : List Text :=
  List.map String.toList ["features-opentype", "features-aat", "features-graphite",
    "color-colrv0", "color-colrv1", "color-svg", "color-sbix", "color-cbdt", "variations",
    "palettes", "incremental"]

/-- The notation of a file of a font. -/
def fontFormat : Reading Text := do
  let name ← orTry ident string
  let lower := Text.lowerAscii name
  return writeString (if List.elem lower fontFormats then lower else name)

/-- A file of a font. -/
def fontFile : Reading Text := do
  let url ← Value.url
  let format : Text ←
    match ← attempt (functionOf "format") with
    | some c => do pure ((" format(" : Text) ++ (← inside c fontFormat) ++ [')'])
    | none => pure []
  let tech : Text ←
    match ← attempt (functionOf "tech") with
    | some c => do
      let names ← inside c (commaSeparated (keywordOf fontTechnologies))
      pure ((" tech(" : Text) ++ Text.join ", " names ++ [')'])
    | none => pure []
  return writeUrl url ++ format ++ tech

/-- Where a font comes from: a file, or the system. -/
def fontSource : ValueReading :=
  Value.either (Value.plain fontFile) do
    let c ← functionOf "local"
    return Written.call "local" (← inside c Value.family)

/-- The slope of a font, or from which slope to which one it goes. -/
def slopeRange : ValueReading :=
  Value.either (Value.keywords ["normal", "italic"]) (Value.plain do
    keyword "oblique"
    let first := (← attempt (angle false)).getD "14deg"
    let second := (← attempt (angle false)).getD first
    return if first ≠ second then Text.join [' '] ["oblique", first, second]
      else if first = ("14deg" : Text) then "oblique"
      else ("oblique " : Text) ++ first)

/-- The digits at the front of a text as a number, with their number and what follows. -/
def hexFront (t : Text) : Nat × Nat × Text :=
  let ds := t.takeWhile fun c => (Text.hexValue? c).isSome
  (ds.foldl (fun n c => n * 16 + (Text.hexValue? c).getD 0) 0, ds.length,
    t.dropWhile fun c => (Text.hexValue? c).isSome)

/-- The first and the last character of a range after its `U`. -/
def rangeOf? (t : Text) : Option (Nat × Nat) :=
  match t with
  | '+' :: t =>
    let (first, count, rest) := hexFront t
    let marks := (rest.takeWhile (· == '?')).length
    if count > 6 || count + marks = 0 || count + marks > 6 then none
    else
      match rest.dropWhile (· == '?') with
      | [] =>
        let scale := Nat.pow 16 marks
        some (first * scale, (first + 1) * scale - 1)
      | '-' :: r =>
        let (last, count, rest) := hexFront r
        if marks = 0 && 0 < count && count ≤ 6 && rest = [] then some (first, last) else none
      | _ => none
  | _ => none

/-- A number in hexadecimal digits, in upper case. -/
def upperHex (n : Nat) : Text := Text.upperAscii (Nat.toDigits 16 n)

/-- A range of characters, written with question marks where they say the same. The last
argument is how many digits the ends do not share, at least. -/
def writeRange (first last : Nat) : Nat → Text
  | 0 => ("U+" : Text) ++ upperHex first
  | places + 1 =>
    let scale := Nat.pow 16 (places + 1)
    if first / scale = last / scale && first / Nat.pow 16 places ≠ last / Nat.pow 16 places then
      if first % scale = 0 && last % scale = scale - 1 then
        ("U+" : Text) ++ (if first = 0 then [] else upperHex (first / scale)) ++
          List.replicate (places + 1) '?'
      else ("U+" : Text) ++ upperHex first ++ '-' :: upperHex last
    else writeRange first last places

/-- Whether a component can stand in a range of characters after its `U`. -/
def isRangePart (c : Component) : Bool :=
  match c.head with
  | .number _ => true
  | .dimension _ _ => true
  | .ident _ => true
  | .delim d => d == '+' || d == '?'
  | _ => false

/-- A range of characters. -/
def characterRange : Reading Text := do
  keyword ['u']
  let s ← get
  let parts := s.rest.takeWhile isRangePart
  match rangeOf? (Component.sources parts) with
  | some (first, last) =>
    if first > last || last > 0x10FFFF then failHere .invalidValue
    else
      set { s with rest := s.rest.drop parts.length }
      return writeRange first last 7
  | none => failHere .invalidValue

/-- The description of a font by its name. -/
def fontDescription? (name : Text) : Option ValueReading :=
  let table : List (String × ValueReading) :=
    [("src", Value.list fontSource), ("font-family", Value.family),
      ("font-weight", Value.pair Value.weight), ("font-style", slopeRange),
      ("font-stretch", Value.pair Value.fontStretch),
      ("unicode-range", Value.list (Value.plain characterRange))]
  (table.find? (·.1.toList == name)).map (·.2)

/-- The colour of a palette that takes the place of another one. -/
def overrideColor : Reading Text := do
  let i ← integer
  if i < 0 then failHere .invalidValue
  else
    match ← color with
    | .current => failHere .invalidValue
    | k => return Text.ofInt (i % 65536) ++ ' ' :: k.write

/-- The palette that the colours of another one begin with. -/
def basePalette : Reading Text :=
  orTry (keywordOf (["light", "dark"].map String.toList)) do
    let i ← integer
    if i < 0 then failHere .invalidValue else return Text.ofInt (i % 65536)

/-- The description of a palette by its name. -/
def paletteDescription? (name : Text) : Option ValueReading :=
  if name = ("font-family" : Text) then some Value.family
  else if name = ("base-palette" : Text) then some (Value.plain basePalette)
  else if name = ("override-colors" : Text) then
    some (Value.list (Value.plain overrideColor))
  else none

/-- The descriptions of a palette; a family that every system has is none, and others than
the known ones are left out. -/
def paletteItems : Items Declarations :=
  let all := descriptionItems paletteDescription?
  { all with
    declaration := fun name d => do
      let lower := Text.lowerAscii name
      if (paletteDescription? lower).isNone then failHere .invalidDeclaration
      else if lower = ("font-family" : Text) &&
          (← attempt (Value.keywords Value.genericFamilies)).isSome then
        failHere .invalidDeclaration
      else all.declaration name d }

/-- The description of how one page turns into another, by its name. -/
def transitionDescription? (name : Text) : Option ValueReading :=
  if name = ("navigation" : Text) then some (Value.keywords ["none", "auto"])
  else if name = ("types" : Text) then some Value.authorNames
  else none

/-! ## Features of fonts -/

/-- The kinds of features. -/
def featureKinds : List Text :=
  List.map String.toList ["stylistic", "historical-forms", "styleset", "character-variant",
    "swash", "ornaments", "annotation"]

/-- Features under a name, in the place of those that had it before. -/
def insertFeatures (name : Text) (features : List Int) :
    List (Text × List Int) → List (Text × List Int)
  | [] => [(name, features)]
  | (k, v) :: r => if k = name then (k, features) :: r else (k, v) :: insertFeatures name features r

/-- The names of features as the items of a block. What ends the numbers is passed. -/
def featureItems : Items (List (Text × List Int)) :=
  { declaration := fun name found => do
      let features ← repeated integer
      let _ ← attempt next
      if features.isEmpty then failHere .invalidValue
      else return insertFeatures name features found }

/-- The set of a kind changed; a new one comes last. -/
def changeSet (kind : Text) (change : List (Text × List Int) → Reading (List (Text × List Int))) :
    List FeatureSet → Reading (List FeatureSet)
  | [] => do return [⟨kind, ← change []⟩]
  | s :: r => do
    if s.kind = kind then return ⟨kind, ← change s.features⟩ :: r
    else return s :: (← changeSet kind change r)

/-- The block of a rule inside another block. -/
def innerBlock : Reading Component := do
  upTo endsHead finished
  match ← attempt next with
  | some c => if Stream.isCurly c then return c else failHere (.unexpected .semicolon)
  | none => failHere (.unexpected .semicolon)

/-- **The names of features** by their kinds. The first argument bounds their number. -/
def featureSets : Nat → List FeatureSet → Reading (List FeatureSet)
  | 0, found => return found
  | n + 1, found => do
    skipBlanks
    match ← peek? with
    | none => return found
    | some c =>
      match c.head with
      | .semicolon =>
        let _ ← next
        featureSets n found
      | .atKeyword name =>
        let _ ← next
        let kind := Text.lowerAscii name
        if !List.elem kind featureKinds then failHere (.unknownAtRule name)
        else
          let block ← innerBlock
          let found ← changeSet kind (fun f => inside block (items featureItems f)) found
          featureSets n found
      | _ =>
        let place ← here
        skipTo Stream.isCurly
        let _ ← next
        fail .invalidQualifiedRule place

/-! ## Custom properties -/

/-- What the definition of a custom property says so far. -/
structure PartialDefinition where
  grammar : Option ValueGrammar := none
  inherits : Option Bool := none
  initial : Option Text := none

/-- The parts of a definition as the items of a block. -/
def definitionItems : Items PartialDefinition :=
  { declaration := fun name d => do
      let lower := Text.lowerAscii name
      if lower = ("syntax" : Text) then
        match ValueGrammar.ofText? (← string) with
        | some g => return { d with grammar := some g }
        | none => failHere .invalidValue
      else if lower = ("inherits" : Text) then
        let word ← keywordOf (["true", "false"].map String.toList)
        return { d with inherits := some (word = ("true" : Text)) }
      else if lower = ("initial-value" : Text) then
        let s ← get
        set { s with rest := [] }
        return { d with initial := some (Component.sources s.rest) }
      else failHere .invalidDeclaration }

/-- The initial value of a custom property. Its places count from its own start. -/
def initialValue (g : ValueGrammar) (t : Text) : Reading Written := fun s =>
  let inner := Stream.ofText t
  if g = .any && inner.isDone then .ok ([], s)
  else
    match g.reading inner with
    | .ok (w, _) => .ok (w, s)
    | .error f => .error f

/-- **The definition of a custom property.** Only one that takes any value can do without an
initial one. -/
def definition (name : Text) : Reading Definition := do
  let d ← items definitionItems {}
  match d.grammar, d.inherits, d.initial with
  | some g, some inherits, some t =>
    return { name, grammar := g.write, inherits, initial := some (← initialValue g t) }
  | some .any, some inherits, none =>
    return { name, grammar := ValueGrammar.any.write, inherits, initial := none }
  | _, _, _ => failHere .invalidRuleBody

/-! ## Pages -/

/-- The boxes in the margin of a page. -/
def marginNames : List Text :=
  List.map String.toList ["top-left-corner", "top-left", "top-center", "top-right",
    "top-right-corner", "left-top", "left-middle", "left-bottom", "right-top", "right-middle",
    "right-bottom", "bottom-left-corner", "bottom-left", "bottom-center", "bottom-right",
    "bottom-right-corner"]

/-- **The declarations of a page and the boxes in its margin** as the items of a block. -/
def pageItems (isScoped : Bool) : Items (Declarations × List (Text × Declarations)) :=
  { declaration := fun name (d, margins) => do
      let (isImportant, x) ← declarationValue isScoped name
      return (d.add isImportant x, margins)
    atRule := fun name (d, margins) => do
      let lower := Text.lowerAscii name
      if !List.elem lower marginNames then failHere (.unknownAtRule name)
      else
        let block ← innerBlock
        return (d, margins ++ [('@' :: lower, ← inside block (declarations isScoped))]) }

end Reading

end ModuleHooks.Css
