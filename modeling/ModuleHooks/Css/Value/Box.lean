import ModuleHooks.Css.Value.Basic
/-!
# Boxes

The values of the properties that lay out a box: how large it is, what is around it, how
it is shown, and how boxes share a row or a grid.
-/

namespace ModuleHooks.Css.Value

open Reading

/-! ## Sizes -/

/-- The sizes that have a name. -/
def sizeNames : List String :=
  ["min-content", "max-content", "fit-content", "stretch", "contain", "-webkit-fill-available",
    "-moz-available", "-webkit-min-content", "-webkit-max-content", "-webkit-fit-content",
    "-moz-min-content", "-moz-max-content", "-moz-fit-content"]

/-- A size that fits its content up to a limit. -/
def fitContent : ValueReading := plain do
  let c ← functionOf "fit-content"
  return ("fit-content(" : Text) ++ (← inside c Reading.lengthPercentage) ++ [')']

/-- A size, with a name for the one that is so anyway. -/
def size (initial : String) : ValueReading :=
  either (keywords (initial :: sizeNames)) (either fitContent lengthPercentage)

/-- The ratio of the sides of a box. -/
def aspectRatio : ValueReading := plain do
  let front ← attempt (keyword "auto")
  let r ← attempt ratio
  let back ← if front.isNone then attempt (keyword "auto") else pure none
  match front.orElse (fun _ => back), r with
  | none, none => failHere .invalidValue
  | some _, none => return "auto"
  | none, some r => return r
  | some _, some r => return ("auto " : Text) ++ r

/-! ## Boxes that are asked for their size -/

/-- For what a box can be asked. -/
def containerType : ValueReading := keywords ["normal", "inline-size", "size"]

/-- The names of a box, and for what it can be asked. -/
def container : ValueReading := do
  let names ← authorNames
  match ← attempt (delim '/') with
  | none => return names
  | some _ =>
    let kind ← containerType
    if kind = Written.text ("normal" : Text) then return names
    else return names ++ .text " / " :: kind

/-! ## Borders and shadows -/

/-- The styles of lines. -/
def lineStyles : List String :=
  ["none", "hidden", "inset", "groove", "outset", "ridge", "dotted", "dashed", "solid", "double"]

/-- The width of a line. -/
def lineWidth : ValueReading := either (keywords ["thin", "medium", "thick"]) length

/-- **A line**: width, style and colour in any order. -/
def line (styles : List String) : ValueReading :=
  shorthand [(lineWidth, "medium"), (keywords styles, "none"), (color, "currentColor")]
    (Written.text ("none" : Text))

/-- The radii of the four corners. -/
def radii : ValueReading := do
  let (a, b, c, d) ← fourSides lengthPercentage
  let across := writeSides a b c d
  match ← attempt (delim '/') with
  | some _ =>
    let (e, f, g, h) ← fourSides lengthPercentage
    let down := writeSides e f g h
    return if across = down then across else across ++ .text " / " :: down
  | none => return across

/-- The lengths of a shadow: two or more, without those at the end that are nought. -/
def shadowLengths (most : Nat) : ValueReading := do
  let zero := Written.text ['0']
  let x ← length
  let y ← length
  let more ← many length (most - 2)
  let kept := (more.reverse.dropWhile (· = zero)).reverse
  return Written.joined " " (x :: y :: kept)

/-- **A shadow**: lengths, a colour, and for boxes whether it is inside. -/
def shadow (most : Nat) (hasInset : Bool) : ValueReading := do
  let insets := if hasInset then [keywords ["inset"]] else []
  match ← anyOrder ([shadowLengths most, color] ++ insets) with
  | some lengths :: shade :: inset =>
    let inset := inset.filterMap id
    let shade := telling [(shade, Written.text ("currentColor" : Text))]
    return Written.joined " " (inset ++ lengths :: shade)
  | _ => failHere .invalidDeclaration

/-! ## Display -/

/-- The ways to show a box that have one word. -/
def displayWords : List String :=
  ["none", "contents", "table-row-group", "table-header-group", "table-footer-group", "table-row",
    "table-cell", "table-column-group", "table-column", "table-caption", "ruby-base", "ruby-text",
    "ruby-base-container", "ruby-text-container", "inline-block", "inline-table", "inline-flex",
    "inline-grid", "-webkit-inline-flex", "-ms-inline-flexbox", "-webkit-inline-box",
    "-moz-inline-box"]

/-- How the inside of a shown box is written together with its outside. -/
def displayPair (outer : Text) (inner : Text) (isItem : Bool) : Text :=
  let flow : Text := "flow"
  let inline : Text := "inline"
  if !isItem && outer = inline && inner = ("flow-root" : Text) then "inline-block"
  else if !isItem && outer = inline && List.elem inner (["table", "flex", "grid"].map String.toList)
  then ("inline-" : Text) ++ inner
  else
    let usual : Text := if inner = ("ruby" : Text) then inline else "block"
    let outside := if outer ≠ usual || (inner = flow && !isItem) then [outer] else []
    let within := if inner ≠ flow then [inner] else []
    let item := if isItem then [("list-item" : Text)] else []
    Text.join " " (outside ++ within ++ item)

/-- How a box is shown. -/
def display : ValueReading :=
  either (keywords displayWords) do
    match ← anyOrder [keywords ["block", "inline", "run-in"],
        keywords ["flow", "flow-root", "table", "flex", "grid", "ruby", "-webkit-flex",
          "-ms-flexbox", "-webkit-box", "-moz-box"],
        keywords ["list-item"]] with
    | [outer, inner, item] =>
      let word (w : Option Written) (other : Text) : Text :=
        match w with
        | some [.text t] => t
        | _ => other
      let inner := word inner "flow"
      let outer := word outer (if inner = ("ruby" : Text) then "inline" else "block")
      return Written.text (displayPair outer inner item.isSome)
    | _ => failHere .invalidValue

/-! ## Flexible boxes -/

/-- The directions of a flexible box. -/
def flexDirections : List String := ["row", "row-reverse", "column", "column-reverse"]

/-- The ways of a flexible box to wrap. -/
def flexWraps : List String := ["nowrap", "wrap", "wrap-reverse"]

/-- Direction and wrapping of a flexible box. -/
def flexFlow : ValueReading :=
  looseShorthand [(keywords flexDirections, "row"), (keywords flexWraps, "nowrap")]
    (Written.text ("row" : Text))

/-- How much an item grows and shrinks, and from which size. -/
structure Flex where
  grow : Binary
  shrink : Binary
  /-- The size; none stands for nought percent. -/
  basis : Option Written

/-- The flexibility of an item, written. -/
def Flex.write (f : Flex) : Written :=
  let one := num 1
  let grow := writeNumber f.grow
  let shrink := writeNumber f.shrink
  let usual := Binary.eq f.grow one && Binary.eq f.shrink one
  let isAuto := f.basis = some (Written.text ("auto" : Text))
  let isNought := f.basis = some (Written.text ['0'])
  let isNoughtPercent := f.basis.isNone || f.basis = some (Written.text ['0', '%'])
  if f.grow.isZero && f.shrink.isZero && isAuto then Written.text ("none" : Text)
  else
    let both := !Binary.eq f.shrink one || isNought
    let numbers : List Text :=
      if !usual || isNought || isNoughtPercent then
        if both then [grow, shrink] else [grow]
      else []
    let basis := if isNoughtPercent then [] else (f.basis.map ([·])).getD []
    Written.joined " " (numbers.map Written.text ++ basis)

/-- The flexibility of an item. -/
def flex : ValueReading := do
  match ← attempt (keyword "none") with
  | some _ => return Written.text ("none" : Text)
  | none =>
    let numbers : Reading (Binary × Option Binary) := do
      let g ← Reading.number
      return (g, ← attempt Reading.number)
    let before ← attempt numbers
    let basis ← attempt (lengthOr ["auto"])
    let after ← if before.isNone then attempt numbers else pure none
    let given := before.orElse fun _ => after
    let one := num 1
    let f : Flex :=
      { grow := (given.map (·.1)).getD one
        shrink := (given.bind (·.2)).getD one
        basis }
    return f.write

/-! ## Alignment -/

/-- The ways to distribute space. -/
def distributions : List String := ["space-between", "space-around", "space-evenly", "stretch"]

/-- The positions of content. -/
def contentPositions : List String := ["center", "start", "end", "flex-start", "flex-end"]

/-- The positions of items. -/
def selfPositions : List String :=
  ["center", "start", "end", "self-start", "self-end", "flex-start", "flex-end"]

/-- A position, with what happens when there is too little room. -/
def guarded (positions : List String) : ValueReading := do
  let guard ← attempt (keywords ["safe", "unsafe"])
  let position ← keywords positions
  return match guard with
    | some g => Written.joined " " [g, position]
    | none => position

/-- The alignment on baselines. -/
def baseline : ValueReading := do
  let which ← attempt (keywords ["first", "last"])
  keyword "baseline"
  return if which = some (Written.text ("last" : Text)) then Written.text ("last baseline" : Text)
    else Written.text ("baseline" : Text)

/-- The alignment of all content. -/
def alignContent : ValueReading :=
  either baseline (either (keywords ("normal" :: distributions)) (guarded contentPositions))

/-- The justification of all content. -/
def justifyContent : ValueReading :=
  either (keywords ("normal" :: distributions)) (guarded ("left" :: "right" :: contentPositions))

/-- The alignment of items, with the words that stand for no position. -/
def alignItems (words : List String) : ValueReading :=
  either baseline (either (keywords words) (guarded selfPositions))

/-- The justification of an item. -/
def justifySelf : ValueReading :=
  either baseline
    (either (keywords ["auto", "normal", "stretch"]) (guarded ("left" :: "right" :: selfPositions)))

/-- The justification of items, with the words that stand for no position. -/
def justifyItems (words : List String) : ValueReading :=
  either baseline
    (either legacy (either (keywords words) (guarded ("left" :: "right" :: selfPositions))))
where
  /-- A justification that is inherited. -/
  legacy : ValueReading := do
    match ← anyOrder [keywords ["legacy"], keywords ["left", "right", "center"]] with
    | [some w, some d] => return Written.joined " " [w, d]
    | _ => failHere .invalidValue

/-- Two alignments, the second as the first unless it is given. -/
def placed (align justify : ValueReading) : ValueReading := do
  let a ← align
  match ← attempt justify with
  | some b => return if a = b then a else Written.joined " " [a, b]
  | none => return a

/-- The alignment and the justification of all content. Content that is aligned on
baselines is justified at the start. -/
def placedContent : ValueReading := do
  let a ← alignContent
  let start := Written.text ("start" : Text)
  let isBaseline := a = Written.text ("baseline" : Text) || a = Written.text ("last baseline" : Text)
  let b := (← attempt justifyContent).getD (if isBaseline then start else a)
  return if a = b then a else Written.joined " " [a, b]

/-- The gap between rows or columns. -/
def gap : ValueReading := lengthOr ["normal"]

/-- How what does not fit is treated. -/
def overflow : ValueReading := keywords ["visible", "hidden", "clip", "scroll", "auto"]

end ModuleHooks.Css.Value
