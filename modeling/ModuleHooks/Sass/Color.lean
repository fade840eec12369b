import ModuleHooks.Css.Color.Name
import ModuleHooks.Sass.Number
/-!
# Colours of a style sheet

A colour has three channels and an opacity. It remembers how it was made: a colour that
was written in the source is written in the same way again, and a colour that a notation
with channels made is written in that notation. Only a colour that was computed is
written by its name, or by its digits.
-/

namespace ModuleHooks.Sass

/-- How a colour was made. -/
inductive ColorForm where
  /-- By a computation. -/
  | computed
  /-- By its red, green and blue. -/
  | rgb
  /-- By its hue, saturation and lightness. -/
  | hsl
  /-- By a text in the source. -/
  | literal (text : Text)
  deriving DecidableEq, Repr

/-- **A colour.** -/
structure Color where
  /-- Red, from 0 to 255. -/
  red : Binary
  /-- Green, from 0 to 255. -/
  green : Binary
  /-- Blue, from 0 to 255. -/
  blue : Binary
  /-- The opacity, from 0 to 1. -/
  alpha : Binary
  /-- Hue in degrees, saturation and lightness from 0 to 1, if the colour was made of
  them. -/
  hsl? : Option (Binary × Binary × Binary) := none
  /-- How the colour was made. -/
  form : ColorForm := .computed
  deriving Inhabited

namespace Color

/-- A channel, rounded and brought into its range. -/
def channel (x : Binary) : Binary := (clamp x (whole 0) (whole 255)).toWhole .double .nearest

/-- The colour of red, green, blue and opacity. -/
def ofRgb (red green blue alpha : Binary) (form : ColorForm := .computed) : Color :=
  { red := channel red, green := channel green, blue := channel blue
    alpha := clamp alpha (whole 0) (whole 1), form := form }

/-- One channel of a hue, given in turns. -/
def channelOfHue (low high hue : Binary) : Binary :=
  let hue := if Binary.lt hue .zero then plus hue (whole 1) else hue
  let hue := if Binary.lt (whole 1) hue then minus hue (whole 1) else hue
  let rise := minus high low
  if Binary.lt hue (fraction 1 6) then plus (times (times rise hue) (whole 6)) low
  else if Binary.lt hue (fraction 1 2) then high
  else if Binary.lt hue (fraction 2 3) then
    plus (times (times rise (minus (fraction 2 3) hue)) (whole 6)) low
  else low

/-- A hue between nought and a full turn, in degrees. -/
def turned (hue : Binary) : Binary := modulo hue (whole 360)

/-- **The colour of hue, saturation, lightness and opacity.** -/
def ofHsl (hue saturation lightness alpha : Binary) (form : ColorForm := .computed) : Color :=
  let hue := turned hue
  let s := clamp saturation (whole 0) (whole 1)
  let l := clamp lightness (whole 0) (whole 1)
  let turns := per hue (whole 360)
  let high :=
    if Binary.le l (fraction 1 2) then times l (plus s (whole 1))
    else minus (plus l s) (times l s)
  let low := minus (times l (whole 2)) high
  let part (shift : Binary) :=
    channel (nearlyRound (times (channelOfHue low high (plus turns shift)) (whole 255)))
  { red := part (fraction 1 3), green := part .zero, blue := part (fraction 1 3).neg
    alpha := clamp alpha (whole 0) (whole 1), hsl? := some (hue, s, l), form := form }

/-- **Hue, saturation and lightness.** -/
def hsl (c : Color) : Binary × Binary × Binary :=
  match c.hsl? with
  | some x => x
  | none =>
    let r := per c.red (whole 255)
    let g := per c.green (whole 255)
    let b := per c.blue (whole 255)
    let least := if Binary.le r g then (if Binary.le r b then r else b) else if Binary.le g b then g else b
    let most := if Binary.le g r then (if Binary.le b r then r else b) else if Binary.le b g then g else b
    let rise := minus most least
    let sum := plus most least
    let lightness := per sum (whole 2)
    if Binary.eq most least then (.zero, .zero, lightness)
    else
      let saturation :=
        per rise (if Binary.lt (whole 1) sum then minus (whole 2) sum else sum)
      let sixths :=
        if Binary.eq most b then plus (whole 4) (per (minus r g) rise)
        else if Binary.eq most g then plus (whole 2) (per (minus b r) rise)
        else per (minus g b) rise
      (turned (times sixths (whole 60)), saturation, lightness)

/-- The colour with another opacity. -/
def withAlpha (c : Color) (alpha : Binary) : Color :=
  { c with alpha := clamp alpha (whole 0) (whole 1), form := .computed }

/-- The colour with its hue, saturation and lightness changed. -/
def mapHsl (c : Color) (f : Binary × Binary × Binary → Binary × Binary × Binary) : Color :=
  let (h, s, l) := f c.hsl
  ofHsl h s l c.alpha

/-- **Two colours, mixed**: the weight of the first one is between nought and one, and a
more opaque colour counts for more. -/
def mix (c d : Color) (weight : Binary) : Color :=
  let one := whole 1
  let w := minus (times weight (whole 2)) one
  let distance := minus c.alpha d.alpha
  let combined :=
    if nearlyEq (times w distance) one.neg then w
    else per (plus w distance) (plus one (times w distance))
  let first := per (plus combined one) (whole 2)
  let second := minus one first
  let blend (x y : Binary) := plus (times x first) (times y second)
  ofRgb (blend c.red d.red) (blend c.green d.green) (blend c.blue d.blue)
    (plus (times c.alpha weight) (times d.alpha (minus one weight)))

/-- The colour whose channels are the rest to white. -/
def inverse (c : Color) : Color :=
  let rest (x : Binary) := minus (whole 255) x
  ofRgb (rest c.red) (rest c.green) (rest c.blue) c.alpha

/-- Whiteness and blackness, from 0 to 1. -/
def whiteAndBlack (c : Color) : Binary × Binary :=
  let least := if Binary.le c.red c.green then (if Binary.le c.red c.blue then c.red else c.blue)
    else if Binary.le c.green c.blue then c.green else c.blue
  let most := if Binary.le c.green c.red then (if Binary.le c.blue c.red then c.red else c.blue)
    else if Binary.le c.blue c.green then c.green else c.blue
  (per least (whole 255), minus (whole 1) (per most (whole 255)))

/-- The colour of hue, whiteness, blackness and opacity. -/
def ofHwb (hue white black alpha : Binary) : Color :=
  let sum := plus white black
  let isFull := Binary.lt (whole 1) sum
  let w := if isFull then per white sum else white
  let b := if isFull then per black sum else black
  let turns := per (turned hue) (whole 360)
  let part (shift : Binary) :=
    let x := channelOfHue .zero (whole 1) (plus turns shift)
    nearlyRound (times (plus (times x (minus (minus (whole 1) w) b)) w) (whole 255))
  ofRgb (part (fraction 1 3)) (part .zero) (part (fraction 1 3).neg) alpha

/-- Whether two colours are the same. -/
def same (c d : Color) : Bool :=
  nearlyEq c.red d.red && nearlyEq c.green d.green && nearlyEq c.blue d.blue
    && nearlyEq c.alpha d.alpha

/-- The colour of a name, written as it stands in the source. -/
def ofName? (name : Text) : Option Color :=
  let low := Text.lowerAscii name
  if low = ("transparent" : Text) then
    some { ofRgb .zero .zero .zero .zero with form := .literal name }
  else
    (Css.colorOfName? low).map fun n =>
      { ofRgb (whole (n / 65536 : Nat)) (whole (n / 256 % 256 : Nat)) (whole (n % 256 : Nat))
          (whole 1) with
        form := .literal name }

/-- A byte in two hexadecimal digits. -/
def hexByte (x : Binary) : Text :=
  let n := (x.toInt .nearest).toNat
  [Nat.digitChar (n / 16), Nat.digitChar (n % 16)]

/-- The colour by its channels. -/
def writeRgb (c : Color) : Text :=
  let comma : Text := ", "
  let channels :=
    writeDouble c.red ++ comma ++ writeDouble c.green ++ comma ++ writeDouble c.blue
  if nearlyEq c.alpha (whole 1) then "rgb(".toList ++ channels ++ [')']
  else "rgba(".toList ++ channels ++ comma ++ writeDouble c.alpha ++ [')']

/-- The colour by its hue. -/
def writeHsl (c : Color) : Text :=
  let (h, s, l) := c.hsl
  let parts :=
    writeDouble h ++ "deg, ".toList ++ writeDouble (times s (whole 100)) ++ "%, ".toList
      ++ writeDouble (times l (whole 100)) ++ ['%']
  if nearlyEq c.alpha (whole 1) then "hsl(".toList ++ parts ++ [')']
  else "hsla(".toList ++ parts ++ ", ".toList ++ writeDouble c.alpha ++ [')']

/-- The name of an opaque colour. -/
def name? (c : Color) : Option Text :=
  let n (x : Binary) := (x.toInt .nearest).toNat
  let number := n c.red * 65536 + n c.green * 256 + n c.blue
  (Css.namedColors.find? fun x => x.2 == number).map (·.1.toList)

/-- **A colour, written.** -/
def write (c : Color) : Text :=
  match c.form with
  | .rgb => c.writeRgb
  | .hsl => c.writeHsl
  | .literal t => t
  | .computed =>
    if nearlyEq c.alpha (whole 1) then
      c.name?.getD ('#' :: hexByte c.red ++ hexByte c.green ++ hexByte c.blue)
    else c.writeRgb

end Color

end ModuleHooks.Sass
