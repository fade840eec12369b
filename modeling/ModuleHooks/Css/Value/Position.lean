import ModuleHooks.Css.Value.Basic
/-!
# Positions

Where something is in a box: a spot along each axis, by its distance from the start or
from a side. Two spots are written in as few words as say the same.
-/

namespace ModuleHooks.Css.Value

open Reading

/-- **Where something is along one axis.** -/
inductive Spot where
  | center
  /-- So far from the start. -/
  | offset (distance : Text)
  /-- At a side, so far from it. -/
  | side (name : Text) (distance : Option Text)
  deriving DecidableEq, Repr

namespace Spot

/-- Whether a spot is in the middle. -/
def isCenter : Spot → Bool
  | .center => true
  | .offset t => t == ("50%" : Text)
  | .side _ _ => false

/-- Whether a side is one from which offsets count anyway. -/
def isStart (name : Text) : Bool := name == ("left" : Text) || name == ("top" : Text)

/-- A spot by itself. -/
def write : Spot → Text
  | .center => "center"
  | .offset t => t
  | .side name none => name
  | .side name (some d) => name ++ ' ' :: d

/-- The offset of a side. -/
def sideOffset (name : Text) : Text := if isStart name then ['0'] else "100%"

/-- An offset without the unit of nought. -/
def shortOffset (t : Text) : Text := if isNought t then ['0'] else t

/-- The offset of a spot, if it has one from the start. -/
def offset? : Spot → Option Text
  | .center => some "50%"
  | .offset t => some (shortOffset t)
  | .side name d => if isStart name then some (shortOffset (d.getD ['0'])) else none

/-- Whether a spot is an offset of nought. -/
def isZero : Spot → Bool
  | .offset t => isNought t
  | _ => false

/-- Whether a spot is at a side, with an offset from its far end. -/
def isFar : Spot → Bool
  | .side name (some _) => !isStart name
  | _ => false

/-- **Two spots**, in as few words as say the same. -/
def writePair (x y : Spot) : Text :=
  match x, y with
  | .side a none, .side b none => sideOffset a ++ ' ' :: sideOffset b
  | x, y =>
    match x.isFar, y with
    | true, .offset d =>
      if isNought d then x.write ++ " top".toList else x.write ++ " top ".toList ++ d
    | true, y =>
      if y.isCenter then x.write ++ " center".toList else general x y
    | false, y =>
      match x, y.isFar with
      | .offset d, true =>
        (if isNought d then ("left" : Text) else ("left " : Text) ++ d) ++ ' ' :: y.write
      | x, _ =>
        if x.isCenter && y.isCenter then x.write
        else
          match x, y with
          | .offset d, y => if y.isCenter then d else general (.offset d) y
          | .side a none, y => if y.isCenter then sideOffset a else general (.side a none) y
          | x, .side b none => if x.isCenter then b else general x (.side b none)
          | x, y => general x y
where
  /-- Two offsets if both have one, else both spots by themselves. -/
  general (x y : Spot) : Text :=
    match x.offset?, y.offset? with
    | some a, some b => a ++ ' ' :: b
    | _, _ => x.write ++ ' ' :: y.write

end Spot

/-- A side of the given two. -/
def sideName (a b : String) : Reading Text := keywordOf [a.toList, b.toList]

/-- A spot along an axis with the given sides. -/
def spot (a b : String) : Reading Spot := do
  match ← attempt (keyword "center") with
  | some _ => return .center
  | none =>
    match ← attempt Reading.lengthPercentage with
    | some t => return .offset t
    | none =>
      let name ← sideName a b
      return .side name (← attempt Reading.lengthPercentage)

/-- The second spot of a pair whose first is along the vertical axis. -/
def afterVertical (y : Text) : Reading (Spot × Spot) := do
  let rest ← attempt do
    let d ← attempt Reading.lengthPercentage
    match ← attempt (sideName "left" "right") with
    | some x => return (Spot.side x (← attempt Reading.lengthPercentage), Spot.side y d)
    | none =>
      keyword "center"
      return (Spot.center, Spot.side y d)
  return rest.getD (.center, .side y none)

/-- A position. -/
def positionPair : Reading (Spot × Spot) := do
  match ← attempt (spot "left" "right") with
  | some .center =>
    match ← attempt (spot "top" "bottom") with
    | some y => return (.center, y)
    | none => return ((← attempt (spot "left" "right")).getD .center, .center)
  | some (.offset x) =>
    match ← attempt (sideName "top" "bottom") with
    | some y => return (.offset x, .side y none)
    | none =>
      match ← attempt Reading.lengthPercentage with
      | some y => return (.offset x, .offset y)
      | none =>
        let _ ← attempt (keyword "center")
        return (.offset x, .center)
  | some (.side x d) =>
    match ← attempt (keyword "center") with
    | some _ => return (.side x d, .center)
    | none =>
      match ← attempt (sideName "top" "bottom") with
      | some y => return (.side x d, .side y (← attempt Reading.lengthPercentage))
      | none =>
        match d with
        | some d => return (.side x none, .offset d)
        | none => return (.side x none, .center)
  | none => afterVertical (← sideName "top" "bottom")

/-- **A position.** -/
def position : ValueReading := plain do
  let (x, y) ← positionPair
  return Spot.writePair x y

/-- A spot along one axis, by itself. -/
def oneSpot (a b : String) : ValueReading := plain do
  match ← spot a b with
  | .side name none => return name
  | s => return s.write

end ModuleHooks.Css.Value
