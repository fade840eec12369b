import ModuleHooks.Css.Value.Box
import ModuleHooks.Css.Value.Paint
/-!
# Masks and shapes

What is seen of a box: masks are images that say which parts of it are, and shapes are
the rectangles, circles, ellipses and polygons by which it is cut out. A mask is laid out
as a background is; it says which box it covers, how it goes together with the masks below
it, and by what of its image it hides.
-/

namespace ModuleHooks.Css.Value

open Reading

/-- The boxes of an element, of pages and of drawings. -/
def geometryBoxes : List String :=
  ["border-box", "padding-box", "content-box", "margin-box", "fill-box", "stroke-box", "view-box"]

/-- How masks go together. -/
def maskComposites : List String := ["add", "subtract", "intersect", "exclude"]

/-- By what of an image a mask hides. -/
def maskModes : List String := ["luminance", "alpha", "match-source"]

/-- The place of a mask, with its size after a slash; nothing is said of a mask in the first
corner, by percentages, with its own size. -/
def maskPlace : ValueReading := do
  let (x, y) ← positionPair
  let size ← attempt do
    delim '/'
    backgroundSize
  let size := telling [(size, Written.text ("auto" : Text))]
  let corner := Spot.offset "0%"
  if x = corner && y = corner && size = [] then return []
  else return Written.joined " / " (Written.text (Spot.writePair x y) :: size)

/-- **One layer of a mask.** Its image is always said. -/
def mask : ValueReading := do
  let word (t : String) : Written := Written.text t.toList
  match ← looseOrder [image, maskPlace, backgroundRepeat, keywords geometryBoxes,
      keywords (geometryBoxes ++ ["no-clip"]), keywords maskComposites, keywords maskModes] with
  | [picture, place, tiling, origin, clip, composite, mode] =>
    let clip := clip.getD (origin.getD (word "border-box"))
    let origin := origin.getD (word "border-box")
    let boxes :=
      if origin = word "border-box" && clip = origin then []
      else if clip = origin then [origin]
      else [origin, clip]
    return Written.joined " " (picture.getD (word "none") ::
      telling [(place, []), (tiling, word "repeat")] ++ boxes ++
      telling [(composite, word "add"), (mode, word "match-source")])
  | _ => failHere .invalidDeclaration

/-! ## Shapes -/

/-- The rules by which the inside of a path is found. -/
def fillRules : List String := ["nonzero", "evenodd"]

/-- A radius of a shape. -/
def shapeRadius : ValueReading := lengthOr ["closest-side", "farthest-side"]

/-- The centre of a shape, unless it is the middle. -/
def shapeCenter : Reading (Option Written) := do
  match ← attempt (keyword "at") with
  | none => return none
  | some _ =>
    let (x, y) ← positionPair
    return if x.isCenter && y.isCenter then none
      else some (Written.text (("at " : Text) ++ Spot.writePair x y))

/-- Radii and a centre, as far as they say something. -/
def roundShape (radii : List Written) : ValueReading := do
  let center ← shapeCenter
  let closest := Written.text ("closest-side" : Text)
  let radii := if radii.all (· = closest) then [] else radii
  return Written.joined " " (radii ++ center.toList)

/-- A rectangle by its distance from each side, with the radii of its corners. -/
def insetShape : ValueReading := do
  let distances ← sides lengthPercentage
  match ← attempt (keyword "round") with
  | none => return distances
  | some _ =>
    let corners ← radii
    return if corners = Written.text ['0'] then distances
      else distances ++ .text " round " :: corners

/-- A circle. -/
def circleShape : ValueReading := do
  let radius ← attempt shapeRadius
  roundShape radius.toList

/-- An ellipse. -/
def ellipseShape : ValueReading := do
  let radii ← attempt do return [← shapeRadius, ← shapeRadius]
  roundShape (radii.getD [])

/-- A point of a polygon. -/
def polygonPoint : ValueReading := do
  return Written.joined " " [← lengthPercentage, ← lengthPercentage]

/-- A polygon, with the rule that says what is inside it. -/
def polygonShape : ValueReading := do
  let rule ← attempt (keywords fillRules)
  if rule.isSome then comma
  let points ← commaSeparated polygonPoint
  return Written.joined ", " (telling [(rule, Written.text ("nonzero" : Text))] ++ points)

/-- **A shape.** -/
def shape : ValueReading := do
  let (name, c) ← function
  let name := Text.lowerAscii name
  let table : List (Text × ValueReading) :=
    [("inset", insetShape), ("circle", circleShape), ("ellipse", ellipseShape),
      ("polygon", polygonShape)]
  match Text.lookup? name table with
  | some r => return Written.call name (← inside c r)
  | none => unexpected c

/-- What a box is cut out by: a shape in one of its boxes, such a box, or a drawing. -/
def clipPath : ValueReading :=
  either (keywords ["none"]) (either urlWritten
    (either
      (do
        let s ← shape
        let box ← attempt (keywords geometryBoxes)
        return cut s box)
      (do
        let box ← keywords geometryBoxes
        match ← attempt shape with
        | some s => return cut s (some box)
        | none => return box)))
where
  /-- A shape and the box that it is in. -/
  cut (s : Written) (box : Option Written) : Written :=
    Written.joined " " (s :: telling [(box, Written.text ("border-box" : Text))])

end ModuleHooks.Css.Value
