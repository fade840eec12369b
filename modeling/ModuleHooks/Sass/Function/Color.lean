import ModuleHooks.Sass.Function.Basic
/-!
# Functions of colours

A notation with channels may be given one list of channels, or the channels one by one.
What is not known before the browser knows it makes the whole call a text.
-/

namespace ModuleHooks.Sass.Function

open Sass.Builtin

/-- A number as a share of a whole: as it is, or in hundredths of the whole. -/
def share (name : Text) (most : Int) (n : Number) : Builtin Binary :=
  if n.units.isNone then return clamp n.value .zero (whole most)
  else if n.units == Units.single "%" then
    return clamp (per (times n.value (whole most)) (whole 100)) .zero (whole most)
  else
    failArg name ("Expected ".toList ++ n.write ++ " to have no units or \"%\".".toList)

/-- The channels of a notation: values, or a text for the browser. -/
def channels (function : Text) (names : List Text) (v : Value) :
    Builtin (Sum Value (List Value)) := do
  if isVar v then return .inl (← browserCall function [v])
  let (list, alpha) ←
    if v.separator = .slash then
      match v.items with
      | [list, alpha] =>
        if !isSpecial alpha then
          let _ ← asNumber "alpha" alpha
        pure (list, some alpha)
      | items =>
        fail ("Only 2 slash-separated elements allowed, but ".toList ++ Text.ofNat items.length
          ++ (if items.length = 1 then " was passed." else " were passed.").toList)
    else pure (v, none)
  if alpha.isSome && isVar list then return .inl (← browserCall function [v])
  let isComma := list.separator = .comma
  if isComma || list.isBracketed then
    fail ("$channels must be".toList
      ++ (if list.isBracketed then " an unbracketed".toList else [])
      ++ (if isComma then
            (if list.isBracketed then [','] else " a".toList) ++ " space-separated".toList
          else [])
      ++ " list.".toList)
  else
    let items := list.items
    if items.length > 3 then
      fail ("Only 3 elements allowed, but ".toList ++ Text.ofNat items.length
        ++ " were passed.".toList)
    else if items.length < 3 then
      if items.any isSpecial then return .inl (← browserCall function [v])
      else
        fail ("Missing element $".toList ++ (names.getD items.length []) ++ ['.'])
    else
      match alpha, items with
      | some a, items => return .inr (items ++ [a])
      | none, [x, y, .number (.of _ _ (some (m, n)))] =>
        return .inr [x, y, .number m, .number n]
      | none, [_, _, .text t false] =>
        if List.elem '/' t then return .inl (← browserCall function [v]) else return .inr items
      | none, items => return .inr items

/-- The arguments of a notation: values, or a text for the browser. -/
def channelArguments (function : Text) (names : List Text) : Builtin (Sum Value (List Value)) := do
  atMost 4
  let found : Sum Value (List Value) ←
    if (← count) ≤ 1 then channels function names (← arg 0 "channels")
    else
      let first ← (names.zipIdx).mapM fun (n, i) => arg i n
      pure (.inr (first ++ (← arg? 3 "alpha").toList))
  match found with
  | .inl v => return .inl v
  | .inr values =>
    if values.any isSpecial then return .inl (← browserCall function values) else return .inr values

/-- The opacity at the end of some values. -/
def alphaOf (values : List Value) : Builtin Binary := do
  match values[3]? with
  | some v => share "alpha" 1 (← asNumber "alpha" v)
  | none => return whole 1

/-- A colour with an opacity, or a text for the browser. -/
def colorWithAlpha (function : Text) : Builtin Value := do
  let c ← arg 0 "color"
  let a ← arg 1 "alpha"
  if isVar c then browserCall function [c, a]
  else if isSpecial a then
    match c with
    | .color c =>
      browserCall function
        [.number (.plain c.red), .number (.plain c.green), .number (.plain c.blue), a]
    | c =>
      if isVar a then browserCall function [c, a]
      else
        let _ ← asColor "color" c
        return .null
  else
    let c ← asColor "color" c
    let a ← asNumber "alpha" a
    return .color (c.withAlpha (← share "alpha" 1 a))

/-- The notation by red, green and blue. -/
def rgb (function : Text) : Builtin Value := do
  if (← count) = 2 then colorWithAlpha function
  else
    let names := List.map String.toList ["red", "green", "blue"]
    match ← channelArguments function names with
    | .inl v => return v
    | .inr values =>
      let parts ← (names.zip values).mapM fun (n, v) => do
        return nearlyRound (← share n 255 (← asNumber n v))
      let alpha ← alphaOf values
      match parts with
      | [r, g, b] => return .color (Color.ofRgb r g b alpha .rgb)
      | _ => return .null

/-- The value of an angle in degrees. -/
def degrees (n : Number) : Binary :=
  if n.units.isNone then n.value
  else if Units.comparable n.units (Units.single "deg") then n.valueIn (Units.single "deg")
  else n.value

/-- The notation by hue, saturation and lightness. -/
def hsl (function : Text) : Builtin Value := do
  if (← count) = 2 then
    let h ← arg 0 "hue"
    let s ← arg 1 "saturation"
    if isVar h || isVar s then browserCall function [h, s] else fail "Missing argument $lightness."
  else
    let names := List.map String.toList ["hue", "saturation", "lightness"]
    match ← channelArguments function names with
    | .inl v => return v
    | .inr values =>
      let parts ← (names.zip values).mapM fun (n, v) => asNumber n v
      let alpha ← alphaOf values
      match parts with
      | [h, s, l] =>
        let part (n : Number) := clamp (per n.value (whole 100)) .zero (whole 1)
        return .color (Color.ofHsl (degrees h) (part s) (part l) alpha .hsl)
      | _ => return .null

/-- A share in hundredths. -/
def hundredthsOf (name : Text) (n : Number) : Builtin Binary := do
  inUnit "%" name n
  return per (← inRange name 0 100 n) (whole 100)

/-- The notation by hue, whiteness and blackness. It has no meaning for a browser. -/
def hwb : Builtin Value := do
  atMost 4
  let names := List.map String.toList ["hue", "whiteness", "blackness"]
  let n ← count
  let values ←
    if n ≤ 1 then
      match ← channels "hwb" names (← arg 0 "channels") with
      | .inl v => fail ("Expected numeric channels, got \"".toList ++ v.inspect ++ "\".".toList)
      | .inr values => pure values
    else if n = 2 then do
      atMost 1
      pure []
    else
      let first ← (names.zipIdx).mapM fun (n, i) => arg i n
      pure (first ++ (← arg? 3 "alpha").toList)
  match values with
  | h :: w :: b :: _ =>
    let h ← asNumber "hue" h
    let w ← asNumber "whiteness" w
    inUnit "%" "whiteness" w
    let b ← asNumber "blackness" b
    inUnit "%" "blackness" b
    let alpha ← alphaOf values
    return .color (Color.ofHwb (degrees h) (← hundredthsOf "whiteness" w)
      (← hundredthsOf "blackness" b) alpha)
  | _ => return .null

/-- A function of one colour. -/
def ofColor (f : Color → Number) : Builtin Value := do
  atMost 1
  return .number (f (← color 0 "color"))

/-- A number in hundredths. -/
def hundredths (x : Binary) : Number := .plain (times x (whole 100)) (Units.single "%")

/-- A change of a colour by an amount from nought to one hundred. -/
def byAmount (f : Color → Binary → Color) : Builtin Value := do
  atMost 2
  let c ← color 0 "color"
  let x ← inRange "amount" 0 100 (← number 1 "amount")
  return .color (f c (per x (whole 100)))

/-- A change of the opacity by an amount from nought to one. -/
def byOpacity (f : Binary → Binary → Binary) : Builtin Value := do
  atMost 2
  let c ← color 0 "color"
  let x ← inRange "amount" 0 1 (← number 1 "amount")
  return .color (c.withAlpha (f c.alpha x))

/-- A colour without saturation. -/
def gray (c : Color) : Color := c.mapHsl fun (h, _, l) => (h, .zero, l)

/-- A function of the browser where the argument is a number, and of a colour elsewhere. -/
def filterOr (function : Text) (f : Color → Value) : Builtin Value := do
  atMost 1
  match ← arg 0 "color" with
  | .number n => browserCall function [.number n]
  | v => return f (← asColor "color" v)

/-- More saturation, or the function of the browser. -/
def saturate : Builtin Value := do
  atMost 2
  if (← count) = 1 then browserCall "saturate" [.number (← number 0 "amount")]
  else byAmount fun c x => c.mapHsl fun (h, s, l) => (h, plus s x, l)

/-- Whether a value is a name with the sign of equality after it, as in the filters of old
browsers. -/
def isFilter : Value → Bool
  | .text (c :: r) false =>
    c.isAlpha &&
      ((r.dropWhile Char.isAlpha).dropWhile fun d => List.elem d [' ', '\t', '\n']).head? == some '='
  | _ => false

/-- The opacity of a colour, or the filter of an old browser. -/
def alpha : Builtin Value := do
  if (← count) ≤ 1 then
    let v ← arg 0 "color"
    if isFilter v then browserCall "alpha" [v]
    else return .number (.plain (← asColor "color" v).alpha)
  else
    let list ← all
    if list.all isFilter then browserCall "alpha" list
    else
      atMost 1
      return .null

/-- Two colours, mixed. -/
def mixColors : Builtin Value := do
  atMost 3
  let c ← color 0 "color1"
  let d ← color 1 "color2"
  let w ← asNumber "weight" (← argOr 2 "weight" (.number (.plain (whole 50) (Units.single "%"))))
  let x ← inRange "weight" 0 100 w
  return .color (c.mix d (per x (whole 100)))

/-- The inverse of a colour, with some of the colour in it, or the function of the
browser. -/
def invert : Builtin Value := do
  atMost 2
  let weight ← (← arg? 1 "weight").mapM fun v => do inRange "weight" 0 100 (← asNumber "weight" v)
  match ← arg 0 "color" with
  | .number n =>
    if weight.isSome then
      fail "Only one argument may be passed to the plain-CSS invert() function."
    else browserCall "invert" [.number n]
  | v =>
    let c ← asColor "color" v
    return .color (c.inverse.mix c (per (weight.getD (whole 100)) (whole 100)))

/-! ## Changes by name -/

/-- How channels are changed by name. -/
inductive Change where
  | adjust
  | scale
  | set
  deriving DecidableEq

/-- What the amount of a channel looks like. -/
structure Measure where
  /-- The most that the channel can be. -/
  most : Int
  /-- The range is told in hundredths. -/
  inHundredths : Bool := true
  /-- The amount has to be given in hundredths. -/
  needsUnit : Bool := false

/-- The amount that a channel is changed by. -/
def amount? (change : Change) (name : Text) (measure : Measure) : Builtin (Option Binary) := do
  match ← arg? 1000 name with
  | none => return none
  | some v =>
    let n ← asNumber name v
    let most := if change = .scale then 100 else measure.most
    let low := if change = .set then 0 else -most
    let x ←
      if measure.needsUnit || change = .scale then do
        inUnit "%" name n
        inRange name low most n
      else
        inRangeOf (if measure.inHundredths then Units.single "%" else .none) name low most n
    return some (if most = 100 then per x (whole 100) else x)

/-- The angle that the hue is changed by. -/
def turn? (change : Change) : Builtin (Option Binary) := do
  if change = .scale then return none
  else return (← (← arg? 1000 "hue").mapM (asNumber "hue")).map degrees

/-- A channel changed by an amount. -/
def changed (change : Change) (most : Binary) (x : Binary) : Option Binary → Binary
  | none => x
  | some d =>
    match change with
    | .adjust => clamp (plus x d) .zero most
    | .set => d
    | .scale => plus x (times (if Binary.lt .zero d then minus most x else x) d)

/-- A colour whose channels are changed by name. -/
def changeColor (change : Change) : Builtin Value := do
  let g ← read
  let c ← color 0 "color"
  if g.positional.length > 1 then
    fail "Only one positional argument is allowed. All other arguments must be passed by name."
  else
    let part : Measure := { most := 100 }
    let share : Measure := { most := 100, needsUnit := true }
    let alpha ← amount? change "alpha" { most := 1, inHundredths := false }
    let red ← amount? change "red" { most := 255, inHundredths := false }
    let green ← amount? change "green" { most := 255, inHundredths := false }
    let blue ← amount? change "blue" { most := 255, inHundredths := false }
    let hue ← turn? change
    let saturation ← amount? change "saturation" part
    let lightness ← amount? change "lightness" part
    let white ← amount? change "whiteness" share
    let black ← amount? change "blackness" share
    let known := List.map String.toList
      (["color", "red", "green", "blue", "saturation", "lightness", "whiteness", "blackness",
        "alpha"] ++ if change = .scale then [] else ["hue"])
    match (g.named.map (·.1)).filter fun n => !List.elem n known with
    | n :: more => fail (unknownNames (n :: more))
    | [] =>
      let one := whole 1
      let hasAlpha := alpha.isSome
      let alpha := changed change one c.alpha alpha
      let hasRgb := red.isSome || green.isSome || blue.isSome
      let hasHsl := saturation.isSome || lightness.isSome
      let hasHwb := white.isSome || black.isSome
      let turn (h : Binary) : Binary :=
        match hue, change with
        | some d, .adjust => plus h d
        | some d, _ => d
        | none, _ => h
      if hasRgb && (hasHsl || hasHwb || hue.isSome) then
        fail ("RGB parameters may not be passed along with ".toList
          ++ (if hasHwb then "HWB" else "HSL").toList ++ " parameters.".toList)
      else if hasHsl && hasHwb then
        fail "HSL parameters may not be passed along with HWB parameters."
      else if hasRgb then
        let most := whole 255
        let part (x : Binary) (d : Option Binary) := nearlyRound (changed change most x d)
        return .color (Color.ofRgb (part c.red red) (part c.green green) (part c.blue blue) alpha)
      else if hasHwb then
        let (w, b) := c.whiteAndBlack
        return .color (Color.ofHwb (turn c.hsl.1) (changed change one w white)
          (changed change one b black) alpha)
      else if hasHsl || hue.isSome then
        let (h, s, l) := c.hsl
        return .color (Color.ofHsl (turn h) (changed change one s saturation)
          (changed change one l lightness) alpha)
      else if hasAlpha then return .color (c.withAlpha alpha)
      else return .color c

/-- A colour as an old browser wants it. -/
def ieText : Builtin Value := do
  atMost 1
  let c ← color 0 "color"
  let low : Text := Color.hexByte (times c.alpha (whole 255)) ++ Color.hexByte c.red
    ++ Color.hexByte c.green ++ Color.hexByte c.blue
  return .word ('#' :: Text.upperAscii low)

/-- **The functions of colours**, by their names in their module. -/
def colors : Functions :=
  [("red", ofColor fun c => .plain c.red), ("green", ofColor fun c => .plain c.green),
    ("blue", ofColor fun c => .plain c.blue),
    ("hue", ofColor fun c => .plain c.hsl.1 (Units.single "deg")),
    ("saturation", ofColor fun c => hundredths c.hsl.2.1),
    ("lightness", ofColor fun c => hundredths c.hsl.2.2),
    ("whiteness", ofColor fun c => hundredths c.whiteAndBlack.1),
    ("blackness", ofColor fun c => hundredths c.whiteAndBlack.2), ("alpha", alpha),
    ("opacity", filterOr "opacity" fun c => .number (.plain c.alpha)), ("mix", mixColors),
    ("invert", invert), ("hwb", hwb), ("adjust", changeColor .adjust),
    ("scale", changeColor .scale), ("change", changeColor .set), ("ie-hex-str", ieText),
    ("grayscale", filterOr "grayscale" fun c => .color (gray c)),
    ("complement", do
      atMost 1
      return .color ((← color 0 "color").mapHsl fun (h, s, l) => (plus h (whole 180), s, l)))]

/-- The functions of colours that are in no module. -/
def oldColors : Functions :=
  [("rgb", rgb "rgb"), ("rgba", rgb "rgba"), ("hsl", hsl "hsl"), ("hsla", hsl "hsla"),
    ("lighten", byAmount fun c x => c.mapHsl fun (h, s, l) => (h, s, plus l x)),
    ("darken", byAmount fun c x => c.mapHsl fun (h, s, l) => (h, s, minus l x)),
    ("desaturate", byAmount fun c x => c.mapHsl fun (h, s, l) => (h, minus s x, l)),
    ("saturate", saturate), ("opacify", byOpacity plus), ("fade-in", byOpacity plus),
    ("transparentize", byOpacity minus), ("fade-out", byOpacity minus),
    ("adjust-hue", do
      atMost 2
      let c ← color 0 "color"
      let d ← number 1 "degrees"
      return .color (c.mapHsl fun (h, s, l) => (plus h (degrees d), s, l))),
    ("adjust-color", changeColor .adjust), ("scale-color", changeColor .scale),
    ("change-color", changeColor .set)]

end ModuleHooks.Sass.Function
