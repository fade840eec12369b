import ModuleHooks.Css.Value.Basic
/-!
# Motion

The values of the properties that change over time: transitions, animations and the
curves that both follow; and the transformations of a box.
-/

namespace ModuleHooks.Css.Value

open Reading

/-! ## Curves -/

/-- The curves that have a name. -/
def curveNames : List String :=
  ["linear", "ease", "ease-in", "ease-out", "ease-in-out", "step-start", "step-end"]

/-- The curve of four numbers, by its name if it has one. -/
def writeBezier (xs : List Binary) : Text :=
  let values := xs.map writeNumber
  let named (ts : List String) : Bool := values == ts.map String.toList
  if named [".25", ".1", ".25", "1"] then "ease"
  else if named [".42", "0", "1", "1"] then "ease-in"
  else if named ["0", "0", ".58", "1"] then "ease-out"
  else if named [".42", "0", ".58", "1"] then "ease-in-out"
  else ("cubic-bezier(" : Text) ++ Text.join ", " values ++ [')']

/-- The arguments of a cubic curve. -/
def bezier : Reading Text := do
  let c ← functionOf "cubic-bezier"
  let xs ← inside c (commaSeparated Reading.number)
  if xs.length = 4 then return writeBezier xs else failHere .invalidValue

/-- A curve of steps. -/
def steps : Reading Text := do
  let c ← functionOf "steps"
  inside c do
    let n ← Reading.integer
    let place ← attempt do
      comma
      keywordOf (["start", "end", "jump-start", "jump-end", "jump-none", "jump-both"].map
        String.toList)
    let place := place.getD "end"
    let place : Text :=
      if place = ("jump-start" : Text) then "start"
      else if place = ("jump-end" : Text) then "end"
      else place
    if n = 1 && place = ("start" : Text) then return "step-start"
    else if n = 1 && place = ("end" : Text) then return "step-end"
    else return ("steps(" : Text) ++ Text.ofInt n ++ ", ".toList ++ place ++ [')']

/-- **A curve** that a change follows. -/
def curve : ValueReading := either (keywords curveNames) (plain (orTry bezier steps))

/-! ## Transitions -/

/-- The name of a property, in lower case if it is known. -/
def propertyName (known : Text → Bool) : ValueReading := plain do
  let name ← ident
  let lower := Text.lowerAscii name
  return if known lower then lower else writeIdent name

/-- One transition. -/
def transition (known : Text → Bool) : ValueReading := do
  match ← looseOrder [time, curve, time, propertyName known] with
  | [duration, shape, delay, property] =>
    let zero := Written.text ("0s" : Text)
    let all := property.getD (Written.text ("all" : Text))
    let duration :=
      if (telling [(delay, zero)]).isEmpty then telling [(duration, zero)]
      else [duration.getD zero]
    return Written.joined " " (all :: duration ++
      telling [(shape, Written.text ("ease" : Text)), (delay, zero)])
  | _ => failHere .invalidDeclaration

/-! ## Animations -/

/-- The name of an animation. -/
def animationName : ValueReading :=
  either (keywords ["none"]) (either (do return Written.ofLocal (← authorIdent)) do
    let name ← string
    if List.elem (Text.lowerAscii name) (("none" : Text) :: reservedNames) then
      return Written.text (writeString name)
    else return Written.ofLocal name)

/-- How often an animation runs. -/
def iterations : ValueReading := either (keywords ["infinite"]) number

/-- The directions of an animation. -/
def directions : List String := ["normal", "reverse", "alternate", "alternate-reverse"]

/-- The fillings of an animation. -/
def fillings : List String := ["none", "forwards", "backwards", "both"]

/-- The states of an animation. -/
def playStates : List String := ["running", "paused"]

/-! ### Timelines -/

/-- The axes along which something scrolls. -/
def scrollAxes : List String := ["block", "inline", "x", "y"]

/-- What scrolls, and along which axis. -/
def scrollTimeline : ValueReading := do
  let filled ← looseOrder [keywords ["root", "nearest", "self"], keywords scrollAxes]
  match filled with
  | [scroller, axis] =>
    return Written.joined " " (telling [(scroller, Written.text ("nearest" : Text)),
      (axis, Written.text ("block" : Text))])
  | _ => failHere .invalidValue

/-- Along which axis something comes into view, and how much of the view does not count. -/
def viewTimeline : ValueReading := do
  let filled ← looseOrder [keywords scrollAxes, pair (lengthOr ["auto"])]
  match filled with
  | [axis, inset] =>
    return Written.joined " " (telling [(axis, Written.text ("block" : Text)),
      (inset, Written.text ("auto" : Text))])
  | _ => failHere .invalidValue

/-- **What an animation follows** instead of time. -/
def timeline : ValueReading :=
  either (keywords ["auto", "none"]) (either (plain do return writeIdent (← dashedIdent)) do
    let (name, c) ← function
    let name := Text.lowerAscii name
    if name = ("scroll" : Text) then return Written.call name (← inside c scrollTimeline)
    else if name = ("view" : Text) then return Written.call name (← inside c viewTimeline)
    else unexpected c)

/-- The parts of a way through a view. -/
def rangeNames : List String :=
  ["cover", "contain", "entry", "exit", "entry-crossing", "exit-crossing"]

/-- **One end of a range of a timeline**: a place, or the name of a part with a place in it. -/
structure RangeEnd where
  name : Option Text
  place : Text
  deriving DecidableEq, Repr

namespace RangeEnd

/-- The end that is so anyway. -/
def normal : RangeEnd := ⟨none, "normal"⟩

/-- An end of a range, with the place in a part that is meant when none is given. -/
def read (usual : Text) : Reading RangeEnd := do
  match ← attempt (keyword "normal") with
  | some _ => return normal
  | none =>
    match ← attempt Reading.lengthPercentage with
    | some t => return ⟨none, t⟩
    | none =>
      let name ← keywordOf (rangeNames.map String.toList)
      return ⟨some name, (← attempt Reading.lengthPercentage).getD usual⟩

/-- An end of a range, written without the place that is meant anyway. -/
def write (usual : Text) (r : RangeEnd) : Text :=
  match r.name with
  | none => r.place
  | some name => if r.place = usual then name else name ++ ' ' :: r.place

end RangeEnd

/-- The start of a range. -/
def rangeStart : ValueReading := plain do return (← RangeEnd.read "0%").write "0%"

/-- The end of a range. -/
def rangeEnd : ValueReading := plain do return (← RangeEnd.read "100%").write "100%"

/-- **A range of a timeline.** An end that follows from the start is left away. -/
def timelineRange : ValueReading := plain do
  let start ← RangeEnd.read "0%"
  let follows : RangeEnd := if start.name.isSome then ⟨start.name, "100%"⟩ else .normal
  let finish := (← attempt (RangeEnd.read "0%")).getD follows
  let isSaid :=
    if start.name.isSome && finish.name.isSome then finish ≠ follows else finish ≠ .normal
  return if isSaid then start.write "0%" ++ ' ' :: finish.write "100%" else start.write "0%"

/-! ### Whole animations -/

/-- A part of an animation: it is said if it is not initial, or if the name of the
animation could be taken for such a part. -/
def animationPart (part : Option Written) (initial : Text) (name : Text) (words : List String) :
    List Written :=
  let said := part.getD (Written.text initial)
  if said ≠ Written.text initial || List.elem (Text.lowerAscii name) (words.map String.toList) then
    [said]
  else []

/-- One animation: its parts, its name, and the timeline that it follows. Of an animation
without a name nothing else is said. -/
def animation : ValueReading := do
  match ← looseOrder [time, curve, time, iterations, keywords directions, keywords fillings,
      keywords playStates, animationName, timeline] with
  | [duration, shape, delay, count, direction, filling, state, shown, follows] =>
    let zero := Written.text ("0s" : Text)
    let noneWritten := Written.text ("none" : Text)
    let shown := shown.getD noneWritten
    if shown = noneWritten then return noneWritten
    else
      let name := shown.plain
      let delayed := telling [(delay, zero)]
      let duration :=
        if delayed.isEmpty then telling [(duration, zero)] else [duration.getD zero]
      return Written.joined " " (duration ++
        (if List.elem name (curveNames.map String.toList) then
            [shape.getD (Written.text ("ease" : Text))]
          else telling [(shape, Written.text ("ease" : Text))]) ++ delayed ++
        (if name = ("infinite" : Text) then [count.getD (Written.text ['1'])]
          else telling [(count, Written.text ['1'])]) ++
        animationPart direction "normal" name directions ++
        animationPart filling "none" name (fillings.drop 1) ++
        animationPart state "running" name playStates ++
        shown :: telling [(follows, Written.text ("auto" : Text))])
  | _ => failHere .invalidDeclaration

/-! ## Transformations -/

/-- The arguments of a function, each read in its way. -/
def arguments : List (Reading Text) → Reading (List Text)
  | [] => return []
  | [r] => return [← r]
  | r :: rest => do
    let a ← r
    comma
    return a :: (← arguments rest)

/-- A function with its arguments. -/
def writeCall (name : Text) (as : List Text) : Text := name ++ '(' :: Text.join ", " as ++ [')']

/-- One or two arguments, the second left out when the first one says it. -/
def oneOrTwo (r : Reading Text) (implies : Text → Text → Bool) : Reading (List Text) := do
  let a ← r
  match ← attempt comma with
  | some _ =>
    let b ← r
    return if implies a b then [a] else [a, b]
  | none => return [a]

/-- A number, or a percentage as the number that it is, written. -/
def factor : Reading Text := do return writeNumber (← Reading.numberOrPercentage)

/-- The arguments of a transformation, by its name in lower case, with the way that name
is written. -/
def transformArguments (name : Text) : Option (Text × Reading (List Text)) :=
  let lp := Reading.lengthPercentage
  let len := Reading.length
  let turn := angle true
  let n : Reading Text := do return writeNumber (← Reading.number)
  let table : List (String × Reading (List Text)) :=
    [("translate", oneOrTwo lp fun _ => isNought), ("translateX", arguments [lp]),
      ("translateY", arguments [lp]), ("translateZ", arguments [len]),
      ("translate3d", arguments [lp, lp, len]), ("scale", oneOrTwo factor fun a b => a = b),
      ("scaleX", arguments [factor]), ("scaleY", arguments [factor]),
      ("scaleZ", arguments [factor]), ("scale3d", arguments [factor, factor, factor]),
      ("rotate", arguments [turn]), ("rotateX", arguments [turn]), ("rotateY", arguments [turn]),
      ("rotateZ", arguments [turn]), ("rotate3d", arguments [n, n, n, turn]),
      ("skew", oneOrTwo turn fun _ => isNought), ("skewX", arguments [turn]),
      ("skewY", arguments [turn]), ("perspective", arguments [len]),
      ("matrix", arguments (List.replicate 6 n)), ("matrix3d", arguments (List.replicate 16 n))]
  (table.find? fun x => Text.lowerAscii x.1.toList == name).map fun x => (x.1.toList, x.2)

/-- One transformation. -/
def transformOne : Reading Text := do
  let (name, c) ← function
  match transformArguments (Text.lowerAscii name) with
  | some (name, as) => return writeCall name (← inside c as)
  | none => unexpected c

/-- **Transformations.** -/
def transform : ValueReading :=
  either (keywords ["none"]) (plain do
    let first ← transformOne
    return Text.join " " (first :: (← repeated transformOne)))

/-- A move by so much along each axis, without the axes at the end along which nothing
moves. -/
def translation : ValueReading :=
  either (keywords ["none"]) (plain do
    let x ← Reading.lengthPercentage
    let y ← attempt Reading.lengthPercentage
    let z ← if y.isSome then attempt Reading.length else pure none
    let y := y.getD ['0']
    let z := z.getD ['0']
    return Text.join " " (x :: if !isNought z then [y, z] else if !isNought y then [y] else []))

/-- A factor for each axis; the second axis takes that of the first one. -/
def scaling : ValueReading :=
  either (keywords ["none"]) (plain do
    let one : Text := ['1']
    let x ← factor
    let y ← attempt factor
    let z ← if y.isSome then attempt factor else pure none
    let y := y.getD x
    let z := z.getD one
    return Text.join " " (x :: if z ≠ one then [y, z] else if y ≠ x then [y] else []))

/-- The axis of a rotation: that of a name, or a direction by three numbers. -/
def rotationAxis : Reading (List Text) :=
  orTry
    (do
      let name ← keywordOf (["x", "y", "z"].map String.toList)
      let one : Text := ['1']
      let zero : Text := ['0']
      return if name = ['x'] then [one, zero, zero] else if name = ['y'] then [zero, one, zero]
        else [zero, zero, one])
    (do
      let number : Reading Text := do return writeNumber (← Reading.number)
      return [← number, ← number, ← number])

/-- The axis of a rotation, written; of the usual one nothing is said. -/
def writeAxis (axis : List Text) : List Text :=
  let one : Text := ['1']
  let zero : Text := ['0']
  if axis = [one, zero, zero] then [['x']]
  else if axis = [zero, one, zero] then [['y']]
  else if axis = [zero, zero, one] then []
  else axis

/-- **A rotation** around an axis, which is said before or after the angle. -/
def rotation : ValueReading :=
  either (keywords ["none"]) (plain do
    let before ← attempt (simpleQuantity Dimension.angle)
    let axis := writeAxis ((← attempt rotationAxis).getD [])
    let angle ← match before with
      | some a => pure a
      | none => simpleQuantity Dimension.angle
    return if axis = [] && angle.value.isZero then "none"
      else Text.join " " (axis ++ [angle.write false]))

end ModuleHooks.Css.Value
