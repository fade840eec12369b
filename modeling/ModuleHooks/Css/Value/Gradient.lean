import ModuleHooks.Css.Value.Position
/-!
# Gradients

Images in which colours run into each other: along a line, around a point at a distance
from it, or around a point at an angle. Each of the first two is also known under the
names that vendors gave it, one of which has an older notation of its own.
-/

namespace ModuleHooks.Css.Value

open Reading

/-! ## Stops -/

/-- **A stop of a gradient.** -/
inductive GradientStop where
  /-- A colour, and where it is. -/
  | shade (color : Text) (place : Option Text)
  /-- Where the middle between two colours is. -/
  | middle (place : Text)
  deriving DecidableEq, Repr

/-- A stop, written. -/
def GradientStop.write : GradientStop → Text
  | .shade color none => color
  | .shade color (some place) => color ++ ' ' :: place
  | .middle place => place

/-- A colour with up to two places. -/
def shadeStops (place : Reading Text) : Reading (List GradientStop) := do
  let color := (← Reading.color).write
  match ← attempt place with
  | none => return [.shade color none]
  | some p =>
    match ← attempt place with
    | none => return [.shade color (some p)]
    | some q => return [.shade color (some p), .shade color (some q)]

/-- Stops between commas. A middle comes after a colour and counts only where it is not in
the middle anyway. The first argument bounds the number of stops. -/
def stopsUpTo (place : Reading Text) : Nat → Bool → Reading (List GradientStop)
  | 0, _ => return []
  | n + 1, afterShade => do
    skipBlanks
    let (found, isShade) ← upTo Stream.isComma do
      match ← if afterShade then attempt place else pure none with
      | some p => return (if p = ("50%" : Text) then [] else [GradientStop.middle p], false)
      | none => return (← shadeStops place, true)
    match ← attempt comma with
    | some _ => return found ++ (← stopsUpTo place n isShade)
    | none => return found

/-- The stops, written; two neighbours with one colour and a place each are written as one
colour with two places. -/
def writeStops : List GradientStop → List Text
  | [] => []
  | [s] => [s.write]
  | .shade c (some p) :: .shade d (some q) :: r =>
    if c = d then (c ++ ' ' :: p ++ ' ' :: q) :: writeStops r
    else (c ++ ' ' :: p) :: writeStops (.shade d (some q) :: r)
  | s :: t :: r => s.write :: writeStops (t :: r)

/-- **The stops of a gradient**, whose places are read in the given way. -/
def gradientStops (place : Reading Text) : Reading (List Text) := fun s =>
  (do return writeStops (← stopsUpTo place (s.rest.length + 1) false) : Reading (List Text)) s

/-- The parts of a gradient between its brackets. -/
def gradientParts (front stops : List Text) : Text := Text.join ", " (front ++ stops)

/-! ## Along a line -/

/-- An angle; nought may do without its unit. -/
def gradientAngle : Reading Amount :=
  orTry (simpleQuantity Dimension.angle) do
    let x ← plainNumber
    if x.isZero then return ⟨.zero, "deg"⟩ else failHere .invalidValue

/-- A side or a corner, the vertical side first. -/
def gradientSide : Reading Text := do
  let vertical := keywordOf (["top", "bottom"].map String.toList)
  let horizontal := keywordOf (["left", "right"].map String.toList)
  match ← attempt horizontal with
  | some x =>
    match ← attempt vertical with
    | some y => return y ++ ' ' :: x
    | none => return x
  | none =>
    let y ← vertical
    match ← attempt horizontal with
    | some x => return y ++ ' ' :: x
    | none => return y

/-- The direction of a gradient along a line, unless it is the usual one, which goes to the
bottom. Under the names of vendors a side needs no word in front. -/
def gradientDirection (isVendors : Bool) : Reading (List Text) := do
  match ← attempt gradientAngle with
  | some a =>
    comma
    let isUsual := (a.base?).any fun d => Binary.eq d.value (num 180)
    return if isUsual then [] else [a.write true]
  | none =>
    let side ← attempt do
      if !isVendors then keyword "to"
      gradientSide
    match side with
    | none => return []
    | some t =>
      comma
      return if t = ("bottom" : Text) then []
        else [(if isVendors then ([] : Text) else "to ") ++ t]

/-- What is in the brackets of a gradient along a line. -/
def linearGradient (isVendors : Bool) : Reading Text := do
  let direction ← gradientDirection isVendors
  return gradientParts direction (← gradientStops Reading.lengthPercentage)

/-! ## Around a point -/

/-- How far a gradient around a point reaches. -/
def gradientExtent : Reading Text :=
  keywordOf (["closest-side", "farthest-side", "closest-corner", "farthest-corner"].map
    String.toList)

/-- Two distances. -/
def gradientRadii : Reading Text := do
  let x ← Reading.lengthPercentage
  return x ++ ' ' :: (← Reading.lengthPercentage)

/-- An ellipse, of which the word may be missing. -/
def gradientEllipse : Reading Text := do
  match ← attempt gradientExtent with
  | some t =>
    match ← attempt (keyword "circle") with
    | some _ => failHere .invalidValue
    | none =>
      let _ ← attempt (keyword "ellipse")
      return t
  | none =>
    match ← attempt (keyword "ellipse") with
    | some _ => return (← attempt (orTry gradientExtent gradientRadii)).getD "farthest-corner"
    | none =>
      let t ← gradientRadii
      let _ ← attempt (keyword "ellipse")
      return t

/-- A circle by how far it reaches. -/
def circleTo (extent : Text) : Text :=
  if extent = ("farthest-corner" : Text) then "circle" else ("circle " : Text) ++ extent

/-- A circle, of which the word may be missing where its radius is there. -/
def gradientCircle : Reading Text := do
  match ← attempt gradientExtent with
  | some t =>
    keyword "circle"
    return circleTo t
  | none =>
    match ← attempt (keyword "circle") with
    | some _ =>
      orTry (do return circleTo (← gradientExtent))
        (orTry Reading.length (do return circleTo "farthest-corner"))
    | none =>
      let r ← Reading.length
      let _ ← attempt (keyword "circle")
      return r

/-- The place of the centre, unless it is the middle. -/
def gradientCenter : Reading (Option (Option Text)) :=
  attempt do
    keyword "at"
    let (x, y) ← positionPair
    return if x.isCenter && y.isCenter then none
      else some (("at " : Text) ++ Spot.writePair x y)

/-- What is in the brackets of a gradient around a point. The usual shape is an ellipse to
the farthest corner. -/
def radialGradient : Reading Text := do
  let shape ← attempt (orTry gradientEllipse gradientCircle)
  let center ← gradientCenter
  if shape.isSome || center.isSome then comma
  let shape := shape.filter (· ≠ ("farthest-corner" : Text))
  let front := Text.join " " (shape.toList ++ (center.bind id).toList)
  return gradientParts (if front = [] then [] else [front])
    (← gradientStops Reading.lengthPercentage)

/-- What is in the brackets of a gradient at an angle. -/
def conicGradient : Reading Text := do
  let start ← attempt do
    keyword "from"
    gradientAngle
  let center ← gradientCenter
  if start.isSome || center.isSome then comma
  let start := start.filter fun a => !(a.unit == ("deg" : Text) && a.value.isZero)
  let front := Text.join " "
    ((start.map fun a => ("from " : Text) ++ a.write true).toList ++ (center.bind id).toList)
  return gradientParts (if front = [] then [] else [front])
    (← gradientStops do return (← quantity Dimension.anglePercentage).write)

/-! ## The older notation -/

/-- A coordinate of a point, among the words for its axis. -/
def pointSpot (a b : String) : Reading Text :=
  orTry (keywordOf (["center", a, b].map String.toList)) do
    match ← attempt Reading.number with
    | some x => return writeNumber x
    | none =>
      let p ← simpleQuantity Dimension.percentage
      return if p.value.isZero then ['0'] else p.write false

/-- A point. -/
def gradientPoint : Reading Text := do
  let x ← pointSpot "left" "right"
  return x ++ ' ' :: (← pointSpot "top" "bottom")

/-- A colour with its place in brackets. The two ends have a word of their own. -/
def placedColor : Reading Text := do
  let (name, c) ← function
  let name := Text.lowerAscii name
  inside c do
    let place ←
      if name = ("color-stop" : Text) then do
        let x ← Reading.numberOrPercentage
        comma
        pure x
      else if name = ("from" : Text) then pure (num 0)
      else if name = ("to" : Text) then pure (num 1)
      else failHere .invalidValue
    let color := (← Reading.color).write
    return (if place.isZero then ("from(" : Text)
      else if Binary.eq place (num 1) then "to("
      else ("color-stop(" : Text) ++ writeNumber place ++ ", ".toList) ++ color ++ [')']

/-- What is in the brackets of a gradient in the older notation. -/
def olderGradient : Reading Text := do
  let kind ← keywordOf (["linear", "radial"].map String.toList)
  let isRadial := kind == ("radial" : Text)
  let radius : Reading (List Text) :=
    if isRadial then do
      comma
      return [writeNumber (← Reading.number)]
    else return []
  comma
  let start ← gradientPoint
  let inner ← radius
  comma
  let finish ← gradientPoint
  let outer ← radius
  comma
  let stops ← commaSeparated placedColor
  return Text.join ", " ([kind, start] ++ inner ++ [finish] ++ outer ++ stops)

/-! ## Gradients -/

/-- The reading of what is in the brackets of a gradient, by its name without the mark of a
vendor. Vendors know no gradient at an angle. -/
def gradientArguments (isVendors : Bool) (name : Text) : Option (Reading Text) :=
  let name := (Text.stripStart? "repeating-" name).getD name
  if name = ("linear-gradient" : Text) then some (linearGradient isVendors)
  else if name = ("radial-gradient" : Text) then some radialGradient
  else if name = ("conic-gradient" : Text) && !isVendors then some conicGradient
  else none

/-- The marks of the vendors that know gradients. -/
def gradientVendors : List Text := List.map String.toList ["-webkit-", "-moz-", "-o-"]

/-- The reading of what is in the brackets of a gradient with a name. -/
def gradientReading? (name : Text) : Option (Reading Text) :=
  if name = ("-webkit-gradient" : Text) then some olderGradient
  else
    match gradientVendors.findSome? fun v => Text.stripStart? v name with
    | some rest => gradientArguments true rest
    | none => gradientArguments false name

/-- **A gradient.** -/
def gradient : ValueReading := plain do
  let (name, c) ← function
  let name := Text.lowerAscii name
  match gradientReading? name with
  | some r => return name ++ '(' :: (← inside c r) ++ [')']
  | none => unexpected c

end ModuleHooks.Css.Value
