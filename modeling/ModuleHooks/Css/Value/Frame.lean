import ModuleHooks.Css.Value.Paint
/-!
# Frames

Images that are cut into nine parts and laid around a box: as its border, or as the mask
of its border. A frame says how far from each side its image is cut, how wide the border
is, how far it stands out, and how the parts along the sides are repeated.
-/

namespace ModuleHooks.Css.Value

open Reading

/-- How far from each side an image is cut, and whether its middle is kept. -/
def frameSlice : ValueReading := do
  let before ← attempt (keyword "fill")
  let offsets ← sides numberOrPercentage
  let after ← if before.isNone then attempt (keyword "fill") else pure none
  return offsets ++ if before.isSome || after.isSome then [.text " fill"] else []

/-- How wide the parts of a frame are. -/
def frameWidth : ValueReading :=
  sides (either (keywords ["auto"]) (either number lengthPercentage))

/-- How far a frame stands out. -/
def frameOutset : ValueReading := sides numberOrLength

/-- The ways to repeat the parts along the sides. -/
def frameTilings : List String := ["stretch", "repeat", "round", "space"]

/-- How the parts along the sides are repeated. -/
def frameRepeat : ValueReading := pair (keywords frameTilings)

/-- The width and the outset after a cut, at least one of them. -/
def frameWidthAndOutset : Reading (Option Written × Option Written) := do
  delim '/'
  let width ← attempt frameWidth
  let outset ← attempt do
    delim '/'
    frameOutset
  if width.isNone && outset.isNone then failHere .invalidDeclaration else return (width, outset)

/-- The cut of a frame with its width and its outset, as far as they are not the usual
ones. -/
def frameMeasures : ValueReading := do
  let slice ← frameSlice
  let (width, outset) := (← attempt frameWidthAndOutset).getD (none, none)
  let slash : Written := Written.text (" / " : Text)
  let width := telling [(width, Written.text ['1'])]
  let outset := telling [(outset, Written.text ['0'])]
  if slice = Written.text ("100%" : Text) && width = [] && outset = [] then return []
  else
    return slice ++ (if width = [] && outset = [] then [] else slash) ++ width.flatten ++
      (if outset = [] then [] else slash) ++ outset.flatten

/-- The parts of a frame, and what it has beside them. -/
def frameWith (others : List (ValueReading × String)) : ValueReading := do
  let filled ← anyOrder ([frameMeasures, image, frameRepeat] ++ others.map (·.1))
  match filled with
  | measures :: source :: tiling :: more =>
    let noneWritten := Written.text ("none" : Text)
    let space (w : Written) : Written := .text " " :: w
    let source := (telling [(source, noneWritten)]).flatten
    let said := telling ([(measures, []), (tiling, Written.text ("stretch" : Text))] ++
      more.zip (others.map fun o => Written.text o.2.toList))
    return if source = [] && said = [] then noneWritten else source ++ said.flatMap space
  | _ => failHere .invalidDeclaration

/-- **The image of a border.** -/
def frame : ValueReading := frameWith []

/-- How the mask of a border works. -/
def maskFrameModes : List String := ["luminance", "alpha"]

/-- **The mask of a border.** -/
def maskFrame : ValueReading := frameWith [(keywords maskFrameModes, "alpha")]

end ModuleHooks.Css.Value
