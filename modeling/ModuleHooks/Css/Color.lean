import ModuleHooks.Css.Color.Name
import ModuleHooks.Css.Piece
import ModuleHooks.Css.Quantity.Reading
/-!
# Colours

A colour of the common colour space comes to four bytes, however it is written, and is
written in the shortest way. Colours of the wider spaces keep their form.
-/

namespace ModuleHooks.Css

/-- **A colour.** -/
inductive Color where
  /-- The colour of the text. -/
  | current
  /-- Four bytes: red, green, blue and opacity. -/
  | bytes (red green blue alpha : Nat)
  /-- A colour that the system chooses. -/
  | system (name : Text)
  /-- A colour of a wider space, as it is written. -/
  | wide (written : Text)
  /-- One colour on light ground, another one on dark ground. -/
  | lightDark (light dark : Color)
  deriving DecidableEq, Repr

namespace Color

/-- A number in hexadecimal digits, with zeros in front up to a width. -/
def hex (width n : Nat) : Text :=
  let ds := Nat.toDigits 16 n
  List.replicate (width - ds.length) '0' ++ ds

/-- Whether the two digits of a byte are the same. -/
def isDouble (n : Nat) : Bool := n / 16 == n % 16

/-- Bytes by one digit each if that is enough, else by two. -/
def writeBytes (bytes : List Nat) : Text :=
  '#' :: if bytes.all isDouble then bytes.flatMap (fun n => hex 1 (n % 16)) else bytes.flatMap (hex 2)

/-- **A colour, written.** -/
def write : Color → Text
  | .current => "currentColor"
  | .bytes r g b a =>
    if a = 255 then (shortName? (r * 65536 + g * 256 + b)).getD (writeBytes [r, g, b])
    else writeBytes [r, g, b, a]
  | .system name => name
  | .wide t => t
  | .lightDark l d => ("light-dark(" : Text) ++ write l ++ ", ".toList ++ write d ++ [')']

/-- A whole number between nought and 255. -/
def clampByte (n : Int) : Nat := (max 0 (min 255 n)).toNat

/-- The byte of a number from nought to 255. -/
def byteOf (x : Binary) : Nat := clampByte (x.toInt .nearest)

/-- The byte of a fraction of one. -/
def byteOfUnit (x : Binary) : Nat := byteOf (mul x (num 255))

/-- The colour of hexadecimal digits. -/
def ofHex? (t : Text) : Option Color := do
  let ds ← t.mapM Text.hexValue?
  match ds with
  | [r, g, b] => some (.bytes (r * 17) (g * 17) (b * 17) 255)
  | [r, g, b, a] => some (.bytes (r * 17) (g * 17) (b * 17) (a * 17))
  | [r, s, g, h, b, c] => some (.bytes (r * 16 + s) (g * 16 + h) (b * 16 + c) 255)
  | [r, s, g, h, b, c, a, d] => some (.bytes (r * 16 + s) (g * 16 + h) (b * 16 + c) (a * 16 + d))
  | _ => none

/-- The colour of a name. -/
def ofName? (name : Text) : Option Color :=
  let name := Text.lowerAscii name
  if name = ("currentcolor" : Text) then some .current
  else if name = ("transparent" : Text) then some (.bytes 0 0 0 0)
  else
    match colorOfName? name with
    | some n => some (.bytes (n / 65536) (n / 256 % 256) (n % 256) 255)
    | none => if List.elem name systemColors then some (.system name) else none

/-- One channel of a hue: a ramp between two levels. -/
def channel (low high hue : Binary) : Binary :=
  let hue := if Binary.lt hue .zero then add hue (num 3) else hue
  let hue := if Binary.lt (num 3) hue then Binary.sub .single hue (num 3) else hue
  if Binary.lt (mul hue (num 2)) (num 1) then
    add low (mul (mul (Binary.sub .single high low) hue) (num 2))
  else if Binary.lt (mul hue (num 2)) (num 3) then high
  else if Binary.lt hue (num 2) then
    add low (mul (mul (Binary.sub .single high low) (Binary.sub .single (num 2) hue)) (num 2))
  else low

/-- Red, green and blue of a hue in degrees, a saturation and a lightness. -/
def ofHue (hue saturation lightness : Binary) : Binary × Binary × Binary :=
  let turns := div hue (num 360)
  let high :=
    if Binary.le lightness (ratioOf 1 2) then mul lightness (add saturation (num 1))
    else Binary.sub .single (add lightness saturation) (mul lightness saturation)
  let low := Binary.sub .single (mul lightness (num 2)) high
  let thirds := mul turns (num 3)
  (channel low high (add thirds (num 1)), channel low high thirds,
    channel low high (Binary.sub .single thirds (num 1)))

/-- A hue between nought and a full turn. -/
def normalHue (x : Binary) : Binary :=
  let r := Binary.rem .single x (num 360)
  if Binary.lt r .zero then add r (num 360) else r

/-- A number between nought and one. -/
def clampUnit (x : Binary) : Binary :=
  if Binary.lt x .zero then .zero else if Binary.lt (num 1) x then num 1 else x

end Color

namespace Reading

/-- Whether a component is missing. -/
def noneOr {α : Type} (missing : α) (r : Reading α) : Reading α :=
  orTry (do keyword "none"; return missing) r

/-- The opacity of the older notation, after a comma. -/
def commaAlpha : Reading Binary := do
  if ← isDone then return num 1
  comma
  return Color.clampUnit (← noneOr .zero numberOrPercentage)

/-- The opacity of the newer notation, after a slash. -/
def slashAlpha : Reading Binary := do
  match ← attempt (delim '/') with
  | some _ => return Color.clampUnit (← noneOr .zero numberOrPercentage)
  | none => return num 1

/-- One component of red, green or blue: its byte, and whether it is a percentage. -/
def rgbComponent : Reading (Nat × Bool) := do
  match ← attempt number with
  | some x => return (Color.byteOf x, false)
  | none => return (Color.byteOfUnit (← simpleQuantity Dimension.percentage).value, true)

/-- A component of the same kind as the first. -/
def rgbLike (isPercentage : Bool) : Reading Nat := do
  let (n, p) ← rgbComponent
  if p = isPercentage then return n else failHere .invalidValue

/-- A component and the comma after it, which say that the notation is the older one. -/
def olderFront {α : Type} (r : Reading α) : Reading α := do
  let x ← r
  comma
  return x

/-- Red, green and blue. -/
def rgbColor : Reading Color := do
  match ← attempt (olderFront rgbComponent) with
  | some (r, p) =>
    let g ← rgbLike p
    comma
    let b ← rgbLike p
    return .bytes r g b (Color.byteOfUnit (← commaAlpha))
  | none =>
    let (r, _) ← noneOr (0, false) rgbComponent
    let (g, _) ← noneOr (0, false) rgbComponent
    let (b, _) ← noneOr (0, false) rgbComponent
    return .bytes r g b (Color.byteOfUnit (← slashAlpha))

/-- A hue in degrees. -/
def hue : Reading Binary := do
  match ← attempt (simpleQuantity Dimension.angle) with
  | some a => return ((a.base?).getD a).value
  | none => number

/-- A percentage, or in the newer notation a number out of a hundred. -/
def percentComponent : Reading Binary := do
  match ← attempt (simpleQuantity Dimension.percentage) with
  | some a => return a.value
  | none => return div (← number) (num 100)

/-- Hue and two percentages, with the opacity. -/
def hueComponents : Reading (Binary × Binary × Binary × Binary) := do
  match ← attempt (olderFront hue) with
  | some h =>
    let s := (← simpleQuantity Dimension.percentage).value
    comma
    let l := (← simpleQuantity Dimension.percentage).value
    return (Color.normalHue h, Color.clampUnit s, Color.clampUnit l, ← commaAlpha)
  | none =>
    let h ← noneOr .zero hue
    let s ← noneOr .zero percentComponent
    let l ← noneOr .zero percentComponent
    return (Color.normalHue h, Color.clampUnit s, Color.clampUnit l, ← slashAlpha)

/-- The front of a colour whose opacity is not known yet, up to the slash: the name of its
function and its three components. -/
def openColor (name : Text) : Reading Text := do
  let front : Text ←
    if name = ("rgb" : Text) then do
      let (r, _) ← rgbComponent
      let (g, _) ← rgbComponent
      let (b, _) ← rgbComponent
      pure (Text.join [' '] ([r, g, b].map Text.ofNat))
    else if name = ("hsl" : Text) then do
      let h ← hue
      let s ← percentComponent
      let l ← percentComponent
      pure (Text.join [' '] [writeNumber h, writePercentage (Color.clampUnit s),
        writePercentage (Color.clampUnit l)])
    else failHere .invalidValue
  delim '/'
  return name ++ '(' :: front

/-- The bytes of three fractions and an opacity. -/
def unitColor (c : Binary × Binary × Binary) (a : Binary) : Color :=
  .bytes (Color.byteOfUnit c.1) (Color.byteOfUnit c.2.1) (Color.byteOfUnit c.2.2)
    (Color.byteOfUnit a)

/-- Hue, saturation and lightness. -/
def hslColor : Reading Color := do
  let (h, s, l, a) ← hueComponents
  return unitColor (Color.ofHue h s l) a

/-- Hue, whiteness and blackness. -/
def hwbColor : Reading Color := do
  let (h, w, b, a) ← hueComponents
  let sum := add w b
  if Binary.le (num 1) sum then
    let gray := div w sum
    return unitColor (gray, gray, gray) a
  else
    let (x, y, z) := Color.ofHue h (num 1) (ratioOf 1 2)
    let rest := Binary.sub .single (Binary.sub .single (num 1) w) b
    return unitColor (add (mul x rest) w, add (mul y rest) w, add (mul z rest) w) a

/-- A component of a wide colour: a number, or a percentage of a given whole. -/
def wideComponent (whole : Binary) : Reading Text :=
  noneOr "none" do
    match ← attempt number with
    | some x => return writeNumber x
    | none => return writeNumber (mul (← simpleQuantity Dimension.percentage).value whole)

/-- A lightness, written as a percentage; a number is out of a given whole. -/
def wideLightness (whole : Binary) : Reading Text :=
  noneOr "none" do
    match ← attempt (simpleQuantity Dimension.percentage) with
    | some a => return writePercentage a.value
    | none => return writePercentage (div (← number) whole)

/-- A hue of a wide colour. -/
def wideHue : Reading Text := noneOr "none" do return writeNumber (Color.normalHue (← hue))

/-- The opacity of a wide colour, unless it is full. -/
def wideAlpha : Reading Text := do
  match ← attempt (delim '/') with
  | some _ =>
    match ← attempt (keyword "none") with
    | some _ => return " / none"
    | none =>
      let a := Color.clampUnit (← numberOrPercentage)
      return if Binary.eq a (num 1) then [] else (" / " : Text) ++ writeNumber a
  | none => return []

/-- A colour by lightness and two axes. -/
def axesColor (name : Text) (lightness whole : Binary) : Reading Color := do
  let l ← wideLightness lightness
  let a ← wideComponent whole
  let b ← wideComponent whole
  return .wide (name ++ '(' :: l ++ ' ' :: a ++ ' ' :: b ++ (← wideAlpha) ++ [')'])

/-- A colour by lightness, strength and hue. -/
def polarColor (name : Text) (lightness whole : Binary) : Reading Color := do
  let l ← wideLightness lightness
  let c ← wideComponent whole
  let h ← wideHue
  return .wide (name ++ '(' :: l ++ ' ' :: c ++ ' ' :: h ++ (← wideAlpha) ++ [')'])

/-- The spaces that a colour can name. -/
def colorSpaces : List Text :=
  List.map String.toList ["srgb", "srgb-linear", "display-p3", "a98-rgb", "prophoto-rgb",
    "rec2020", "xyz", "xyz-d50", "xyz-d65"]

/-- A colour in a space that it names. -/
def spaceColor : Reading Color := do
  let space ← keywordOf colorSpaces
  let one := num 1
  let a ← wideComponent one
  let b ← wideComponent one
  let c ← wideComponent one
  let shown : Text := if space = ("xyz-d65" : Text) then "xyz" else space
  return .wide (("color(" : Text) ++ shown ++ ' ' :: a ++ ' ' :: b ++ ' ' :: c ++ (← wideAlpha) ++
    [')'])

/-- The colour of a function. -/
def colorFunction (name : Text) : Reading Color :=
  if name = ("rgb" : Text) || name = ("rgba" : Text) then rgbColor
  else if name = ("hsl" : Text) || name = ("hsla" : Text) then hslColor
  else if name = ("hwb" : Text) then hwbColor
  else if name = ("lab" : Text) then axesColor name (num 100) (num 125)
  else if name = ("oklab" : Text) then axesColor name (num 1) (ratioOf 4 10)
  else if name = ("lch" : Text) then polarColor name (num 100) (num 150)
  else if name = ("oklch" : Text) then polarColor name (num 1) (ratioOf 4 10)
  else if name = ("color" : Text) then spaceColor
  else failHere .invalidValue

/-- A colour with at most so many colours inside each other. -/
def colorUpTo : Nat → Reading Color
  | 0 => failHere .tooDeep
  | n + 1 => do
    let c ← next
    match c.head with
    | .hash t | .idHash t =>
      match Color.ofHex? t with
      | some k => return k
      | none => unexpected c
    | .ident t =>
      match Color.ofName? t with
      | some k => return k
      | none => unexpected c
    | .function name =>
      let name := Text.lowerAscii name
      if name = ("light-dark" : Text) then
        inside c do
          let l ← colorUpTo n
          comma
          let d ← colorUpTo n
          return .lightDark l d
      else inside c (colorFunction name)
    | _ => unexpected c

/-- **A colour.** -/
def color : Reading Color := bounded colorUpTo

end Reading

end ModuleHooks.Css
