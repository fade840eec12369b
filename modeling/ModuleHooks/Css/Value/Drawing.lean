import ModuleHooks.Css.Value.Basic
/-!
# Drawings

The values of the properties of vector drawings: with what an outline is filled and
stroked, how its dashes follow each other, and what marks its corners.
-/

namespace ModuleHooks.Css.Value

open Reading

/-- A colour, or none at all. -/
def colorOrNone : ValueReading := either (keywords ["none"]) color

/-- **With what an outline is filled or stroked.** -/
def outlinePaint : ValueReading :=
  either (keywords ["none", "context-fill", "context-stroke"])
    (either
      (do
        let u ← urlWritten
        let other ← attempt colorOrNone
        return Written.joined " " (u :: other.toList))
      color)

/-- The length of a dash; pixels do without their unit. -/
def dash : ValueReading := plain do
  match ← quantity Dimension.lengthPercentage with
  | .amount a => return if a.unit = ("px" : Text) then writeNumber a.value else a.write false
  | q => return q.write

/-- Further dashes, with or without commas between them. The first argument bounds their
number. -/
def moreDashes : Nat → Reading (List Written)
  | 0 => return []
  | n + 1 => do
    let place ← here
    let separator ← attempt comma
    match ← attempt dash with
    | some w => return w :: (← moreDashes n)
    | none => if separator.isSome then fail (.unexpected .comma) place else return []

/-- **The lengths of dashes and of the gaps between them.** -/
def dashes : ValueReading :=
  either (keywords ["none"]) do
    let first ← dash
    let s ← get
    return Written.joined " " (first :: (← moreDashes (s.rest.length + 1)))

/-- What marks the corners of an outline. -/
def marker : ValueReading := either (keywords ["none"]) urlWritten

/-- How colours between two others are found. -/
def interpolation : ValueReading := keywords ["auto", "srgb", "linearrgb"]

end ModuleHooks.Css.Value
