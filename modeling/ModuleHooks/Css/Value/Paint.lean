import ModuleHooks.Css.Value.Gradient
/-!
# Paint

The values of the properties that fill a box: images, backgrounds and filters.
-/

namespace ModuleHooks.Css.Value

open Reading

/-! ## Images -/

/-- An image without a choice in it. -/
def plainImage : ValueReading :=
  either (keywords ["none"]) (either urlWritten gradient)

/-- The type of an image in a choice. -/
def imageType : Reading Text := do
  let c ← functionOf "type"
  return ("type(" : Text) ++ writeString (← inside c string) ++ [')']

/-- One image of a choice, with the resolution that it is for and its type. In the older
notation a URL cannot do without its function. -/
def imageOption (isOld : Bool) : ValueReading := do
  let image ← either
    (plain do
      let u ← orTry url string
      return if isOld then writeUrl u else writeString u)
    plainImage
  let before ← attempt Reading.resolution
  let kind ← attempt imageType
  let after ← if before.isNone then attempt Reading.resolution else pure none
  let resolution := (before.orElse fun _ => after).getD "1x"
  return Written.joined " " ([image, Written.text resolution] ++ (kind.map Written.text).toList)

/-- A choice of images by resolution. -/
def imageSet : ValueReading := do
  let (name, c) ← function
  let name := Text.lowerAscii name
  let isOld := name == ("-webkit-image-set" : Text)
  if isOld || name = ("image-set" : Text) then
    return Written.call name (← inside c (list (imageOption isOld)))
  else unexpected c

/-- **An image.** -/
def image : ValueReading := either plainImage imageSet

/-! ## Backgrounds -/

/-- The size of a background. -/
def backgroundSize : ValueReading :=
  either (keywords ["cover", "contain"]) do
    let w ← lengthOr ["auto"]
    let auto := Written.text ("auto" : Text)
    let h := (← attempt (lengthOr ["auto"])).getD auto
    return if h = auto then w else Written.joined " " [w, h]

/-- How a background is repeated. -/
def backgroundRepeat : ValueReading :=
  either (keywords ["repeat-x", "repeat-y"]) do
    let names := ["repeat", "space", "round", "no-repeat"]
    let x ← keywords names
    let y := (← attempt (keywords names)).getD x
    let all := Written.text ("repeat" : Text)
    let noneWritten := Written.text ("no-repeat" : Text)
    return if x = y then x
      else if x = all && y = noneWritten then Written.text ("repeat-x" : Text)
      else if x = noneWritten && y = all then Written.text ("repeat-y" : Text)
      else Written.joined " " [x, y]

/-- The boxes of a background. -/
def backgroundBoxes : List String := ["border-box", "padding-box", "content-box"]

/-- The boxes that a background can be cut to. -/
def clipBoxes : List String := backgroundBoxes ++ ["border", "text"]

/-- A position, with a size after a slash. -/
def positionAndSize : ValueReading := do
  let (x, y) ← positionPair
  let size ← attempt do
    delim '/'
    backgroundSize
  let size := telling [(size, Written.text ("auto" : Text))]
  match x.isZero && y.isZero, size with
  | true, [] => return []
  | _, [] => return Written.text (Spot.writePair x y)
  | _, s => return Written.joined " / " (Written.text (Spot.writePair x y) :: s)

/-- **One layer of a background.** The box of its origin is said where that of its clip is
said, so that the two can be told apart. -/
def background : ValueReading := do
  match ← looseOrder [color, positionAndSize, image, backgroundRepeat,
      keywords ["scroll", "fixed", "local"], keywords backgroundBoxes, keywords clipBoxes] with
  | [shade, place, picture, tiling, attachment, origin, clip] =>
    let word (t : String) : Written := Written.text t.toList
    let clip := clip.getD (origin.getD (word "border-box"))
    let origin := origin.getD (word "padding-box")
    let isBox := List.elem clip (backgroundBoxes.map word)
    let tellOrigin := origin ≠ word "padding-box" || (clip ≠ word "border-box" && isBox)
    let tellClip := (tellOrigin && clip ≠ origin) || clip ≠ word "border-box"
    let said := telling [(shade, word "#0000"), (picture, word "none"), (place, []),
      (tiling, word "repeat"), (attachment, word "scroll")] ++
      (if tellOrigin then [origin] else []) ++ (if tellClip then [clip] else [])
    return if said = [] then word "none" else Written.joined " " said
  | _ => failHere .invalidDeclaration

/-! ## Filters -/

/-- The lengths of a shadow that a filter throws: two or three. -/
def dropLengths : Reading Text := do
  let x ← Reading.length
  let y ← Reading.length
  let blur := (← attempt Reading.length).filter (· ≠ ['0'])
  return Text.join " " ([x, y] ++ blur.toList)

/-- The shadow that a filter throws. -/
def dropShadow : ValueReading := do
  match ← anyOrder [plain dropLengths, color] with
  | [some lengths, shade] =>
    return Written.joined " "
      (lengths :: telling [(shade, Written.text ("currentColor" : Text))])
  | _ => failHere .invalidDeclaration

/-- The amount of a filter, unless it is the whole. -/
def filterAmount : ValueReading := do
  return match ← attempt share with
    | some (value, t) => if Binary.eq value (num 1) then [] else Written.text t
    | none => []

/-- A value that is left away when it is nought. -/
def unlessNought (r : Reading Text) : ValueReading := do
  return match ← attempt r with
    | some t => if t = ['0'] then [] else Written.text t
    | none => []

/-- What is in the brackets of a filter. -/
def filterArguments (name : Text) : Option ValueReading :=
  let amounts : List Text := List.map String.toList
    ["brightness", "contrast", "grayscale", "invert", "opacity", "saturate", "sepia"]
  if List.elem name amounts then some filterAmount
  else if name = ("blur" : Text) then some (unlessNought Reading.length)
  else if name = ("hue-rotate" : Text) then some (unlessNought (angle true))
  else if name = ("drop-shadow" : Text) then some dropShadow
  else none

/-- One filter. -/
def filterOne : ValueReading :=
  either urlWritten do
    let (name, c) ← function
    let name := Text.lowerAscii name
    match filterArguments name with
    | some r => return Written.call name (← inside c r)
    | none => unexpected c

/-- **Filters.** -/
def filter : ValueReading :=
  either (keywords ["none"]) (sequence filterOne)

end ModuleHooks.Css.Value
