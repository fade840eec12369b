import ModuleHooks.Css.Spelling
/-!
# Quantities

Lengths, percentages, angles, durations and plain numbers, and the sums, products and
functions that can stand for them. A sum is brought to as few terms as its units allow:
terms of one unit are added, absolute lengths are added in pixels, and what is left stays
a sum.
-/

namespace ModuleHooks.Css

/-- **An amount**: a number of 32 bits with a unit. A percentage has the unit `%` and
holds its hundredth. -/
structure Amount where
  value : Binary
  unit : Text
  deriving DecidableEq, Repr

/-- **To which multiple of a step a quantity is rounded.** -/
inductive Rounding where
  | nearest
  | up
  | down
  | toZero
  deriving DecidableEq, Repr

/-- The word for a rounding. -/
def Rounding.word : Rounding → Text
  | .nearest => "nearest"
  | .up => "up"
  | .down => "down"
  | .toZero => "to-zero"

/-- **A quantity**, an amount or an expression. -/
inductive Quantity where
  | amount (a : Amount)
  | number (x : Binary)
  | sum (l r : Quantity)
  | product (factor : Binary) (q : Quantity)
  /-- A quantity brought to a multiple of a step. -/
  | round (way : Rounding) (q step : Quantity)
  /-- A mathematical function; its name may be `calc`. -/
  | call (name : Text) (arguments : List Quantity)
  deriving Repr

/-- **What units a quantity may have.** -/
structure Dimension where
  /-- The units. -/
  units : List Text
  /-- Whether percentages count. -/
  hasPercentages : Bool := false
  /-- Whether a plain number counts as a number of pixels. -/
  hasPixels : Bool := false
  /-- Whether the quantity is an angle. -/
  isAngle : Bool := false

/-! ## Numbers of 32 bits -/

/-- A small whole number. -/
def num (n : Int) : Binary := .ofInt .single n

/-- The product of two numbers. -/
def mul (x y : Binary) : Binary := Binary.mul .single x y

/-- The sum of two numbers. -/
def add (x y : Binary) : Binary := Binary.add .single x y

/-- The quotient of two numbers. -/
def div (x y : Binary) : Binary := Binary.div .single x y

/-- The number nearest to a ratio of whole numbers. -/
def ratioOf (n d : Nat) : Binary := .ofRatio .single false n d

/-! ## Units -/

/-- The units of lengths. -/
def lengthUnits : List Text :=
  List.map String.toList ["px", "in", "cm", "mm", "q", "pt", "pc", "em", "rem", "ex", "rex", "ch",
    "rch", "cap", "rcap", "ic", "ric", "lh", "rlh", "vw", "lvw", "svw", "dvw", "cqw", "vh", "lvh",
    "svh", "dvh", "cqh", "vi", "svi", "lvi", "dvi", "cqi", "vb", "svb", "lvb", "dvb", "cqb",
    "vmin", "svmin", "lvmin", "dvmin", "cqmin", "vmax", "svmax", "lvmax", "dvmax", "cqmax"]

/-- The units of angles. -/
def angleUnits : List Text := List.map String.toList ["deg", "grad", "rad", "turn"]

/-- The units of durations. -/
def timeUnits : List Text := List.map String.toList ["s", "ms"]

/-- The units of resolutions. -/
def resolutionUnits : List Text := List.map String.toList ["dpi", "dpcm", "dppx", "x"]

/-- Lengths. -/
def Dimension.length : Dimension := { units := lengthUnits, hasPixels := true }

/-- Lengths and percentages. -/
def Dimension.lengthPercentage : Dimension :=
  { units := lengthUnits, hasPercentages := true, hasPixels := true }

/-- Angles. -/
def Dimension.angle : Dimension := { units := angleUnits, isAngle := true }

/-- Angles and percentages of a full turn. -/
def Dimension.anglePercentage : Dimension :=
  { units := angleUnits, hasPercentages := true, isAngle := true }

/-- Durations. -/
def Dimension.time : Dimension := { units := timeUnits }

/-- Percentages alone. -/
def Dimension.percentage : Dimension := { units := [], hasPercentages := true }

/-- Plain numbers alone. -/
def Dimension.number : Dimension := { units := [] }

/-- How many of its base units an absolute unit is. -/
def absoluteFactor? (unit : Text) : Option (Text × Binary) :=
  let px : Text := "px"
  if unit = px then some (px, num 1)
  else if unit = ("in" : Text) then some (px, num 96)
  else if unit = ("cm" : Text) then some (px, ratioOf 9600 254)
  else if unit = ("mm" : Text) then some (px, ratioOf 960 254)
  else if unit = ("q" : Text) then some (px, ratioOf 960 1016)
  else if unit = ("pt" : Text) then some (px, ratioOf 96 72)
  else if unit = ("pc" : Text) then some (px, num 16)
  else if unit = ("s" : Text) then some ("s", num 1)
  else if unit = ("ms" : Text) then some ("s", ratioOf 1 1000)
  else if unit = ("deg" : Text) then some ("deg", num 1)
  else if unit = ("grad" : Text) then some ("deg", ratioOf 180 200)
  else if unit = ("turn" : Text) then some ("deg", num 360)
  else if unit = ("rad" : Text) then some ("deg", ratioOf 57295779513082320877 1000000000000000000)
  else none

/-- The amount in its base unit. -/
def Amount.base? (a : Amount) : Option Amount :=
  (absoluteFactor? a.unit).map fun (base, factor) => ⟨mul a.value factor, base⟩

/-- Two amounts in the unit in which they are counted together: their own if it is one, of
durations that of the first, else the base unit. -/
def Amount.together? (a b : Amount) : Option (Binary × Binary × Text) :=
  if a.unit = b.unit then some (a.value, b.value, a.unit)
  else if a.unit = ("s" : Text) && b.unit = ("ms" : Text) then
    some (a.value, div b.value (num 1000), a.unit)
  else if a.unit = ("ms" : Text) && b.unit = ("s" : Text) then
    some (a.value, mul b.value (num 1000), a.unit)
  else
    match a.base?, b.base? with
    | some x, some y => if x.unit = y.unit then some (x.value, y.value, x.unit) else none
    | _, _ => none

/-- What an operation makes of two amounts, when they can be counted together. -/
def Amount.combine? (op : Binary → Binary → Binary) (a b : Amount) : Option Amount :=
  (a.together? b).map fun (x, y, unit) => ⟨op x y, unit⟩

/-- The sum of two amounts, when they can be counted together. -/
def Amount.add? (a b : Amount) : Option Amount := a.combine? add b

/-- The order of two amounts, when they can be counted together. -/
def Amount.compare? (a b : Amount) : Option Ordering :=
  (a.together? b).bind fun (x, y, _) => Binary.compare? x y

/-! ## Writing -/

/-- A duration in the unit in which it is shorter. -/
def writeTime (a : Amount) : Text :=
  let tenth := ratioOf 1 10
  let asSeconds (x : Binary) : Text := writeNumber x ++ ['s']
  let asMillis (x : Binary) : Text := writeNumber x ++ ['m', 's']
  if a.unit = ("s" : Text) then
    if Binary.lt .zero a.value && Binary.lt a.value tenth then asMillis (mul a.value (num 1000))
    else asSeconds a.value
  else if a.value.isZero || Binary.le (num 100) a.value then asSeconds (div a.value (num 1000))
  else asMillis a.value

/-- An angle; radians become degrees where that takes no more than five places. -/
def writeAngle (a : Amount) : Text :=
  if a.unit ≠ ("rad" : Text) then writeDimension a.value a.unit
  else
    match a.base? with
    | some d =>
      if (mul d.value (num 100000)).isWhole then writeDimension d.value "deg"
      else writeDimension a.value a.unit
    | none => writeDimension a.value a.unit

/-- A resolution. -/
def writeResolution (a : Amount) : Text :=
  writeDimension a.value (if a.unit = ("dppx" : Text) then "x" else a.unit)

/-- **An amount.** A length of nought has no unit, except inside an expression. -/
def Amount.write (inside : Bool) (a : Amount) : Text :=
  if a.unit = ['%'] then writePercentage a.value
  else if List.elem a.unit timeUnits then writeTime a
  else if List.elem a.unit angleUnits then writeAngle a
  else if List.elem a.unit resolutionUnits then writeResolution a
  else if a.value.isZero && !inside then ['0']
  else writeDimension a.value a.unit

namespace Quantity

mutual

/-- The sign of a quantity, as far as it shows; that of a sum does not. -/
def negative? : Quantity → Option Bool
  | .amount a => some a.value.isNegative
  | .number x => some x.isNegative
  | .sum _ _ => none
  | .product x q => (negative? q).map (x.isNegative != ·)
  | .round _ q step => if negative? q = negative? step then negative? q else none
  | .call name qs =>
    if name = ("abs" : Text) then some false
    else if List.elem name (List.map String.toList ["min", "max", "clamp", "sign", "calc"]) then
      allNegative? qs
    else none

/-- The sign of all of some quantities, if it is one. -/
def allNegative? : List Quantity → Option Bool
  | [] => none
  | [q] => negative? q
  | q :: r => if negative? q = allNegative? r then negative? q else none

end

/-- The quantity times a number. -/
def scale (x : Binary) : Quantity → Quantity
  | .amount a => .amount ⟨mul a.value x, a.unit⟩
  | .number y => .number (mul y x)
  | .sum l r => .sum (scale x l) (scale x r)
  | .product y q =>
    let z := mul y x
    if Binary.eq z (num 1) then q else .product z q
  | .round way q step => .product x (.round way q step)
  | .call name [q] =>
    if name = ("calc" : Text) then .call name [scale x q]
    else .product x (.call name [q])
  | .call name qs => .product x (.call name qs)

/-- The quantity times a number, left as it is when that is one. -/
def times (q : Quantity) (x : Binary) : Quantity :=
  if Binary.eq x (num 1) then q else scale x q

/-- Whether a quantity is an amount of nought. -/
def isZero : Quantity → Bool
  | .amount a => a.value.isZero
  | _ => false

/-- Whether a quantity is a term, not a sum of amounts. -/
def isTerm : Quantity → Bool
  | .number _ => true
  | .product _ _ => true
  | .round _ _ _ => true
  | .call _ _ => true
  | _ => false

mutual

/-- The sum of two quantities where a term of one can take in the other. The first
argument bounds the depth. -/
def merge? : Nat → Quantity → Quantity → Option Quantity
  | 0, _, _ => none
  | _ + 1, .amount a, .amount b => (a.add? b).map .amount
  | n + 1, .sum l r, q =>
    match merge? n l q with
    | some s => some (plus n s r)
    | none => (merge? n r q).map (plus n l ·)
  | n + 1, q, .sum l r =>
    match merge? n q l with
    | some s => some (plus n s r)
    | none => (merge? n q r).map (plus n l ·)
  | _ + 1, _, _ => none

/-- The sum of two quantities side by side, the positive one first. -/
def append : Nat → Quantity → Quantity → Quantity
  | 0, p, q => .sum p q
  | _ + 1, p, q =>
    if isZero p then q
    else if isZero q then p
    else if negative? p = some true && negative? q = some false then .sum q p
    else .sum p q

/-- The sum of two quantities. The first argument bounds the depth. -/
def plus : Nat → Quantity → Quantity → Quantity
  | 0, p, q => .sum p q
  | n + 1, p, q =>
    match p, q with
    | .number x, .number y => .number (add x y)
    | .sum l r, .number z =>
      match l, r with
      | .number x, r => .sum (.number (add x z)) r
      | l, .number y => .sum l (.number (add y z))
      | l, r => .sum (.sum l r) (.number z)
    | p, q =>
      if isTerm p || isTerm q then .sum p q
      else
        match merge? n p q with
        | some s => s
        | none => append n p q

end

/-- How deep the sums of a quantity go. -/
def depth : Quantity → Nat
  | .sum l r => depth l + depth r + 1
  | _ => 1

/-- **The sum of two quantities**, in as few terms as can be. -/
def combine (p q : Quantity) : Quantity := plus (2 * (depth p + depth q) + 2) p q

/-- A product: a factor below one is written as a divisor. -/
def writeProduct (x : Binary) (t : Text) : Text :=
  if Binary.lt x.abs (num 1) then t ++ " / ".toList ++ writeNumber (div (num 1) x)
  else writeNumber x ++ " * ".toList ++ t

/-- A rounding of a quantity to a step. -/
def writeRound (way : Rounding) (q step : Text) : Text :=
  ("round(" : Text) ++ (if way = .nearest then [] else way.word ++ ", ".toList) ++ q ++
    ", ".toList ++ step ++ [')']

mutual

/-- A quantity in an expression. -/
def writeInside : Quantity → Text
  | .amount a => a.write true
  | .number x => writeNumber x
  | .sum l r =>
    writeInside l ++
      (if negative? r = some true then (" - " : Text) ++ writeNegated r
      else (" + " : Text) ++ writeInside r)
  | .product x q => writeProduct x (writeInside q)
  | .round way q step => writeRound way (writeInside q) (writeInside step)
  | .call name qs => name ++ '(' :: writeArguments qs ++ [')']

/-- The opposite of a quantity in an expression. Sums have no sign, so that theirs is never
asked for. -/
def writeNegated : Quantity → Text
  | .amount a => Amount.write true ⟨mul a.value (num (-1)), a.unit⟩
  | .number x => writeNumber (mul x (num (-1)))
  | .sum l r => writeInside l ++ " + ".toList ++ writeInside r
  | .product x q =>
    let y := mul x (num (-1))
    if Binary.eq y (num 1) then writeInside q else writeProduct y (writeInside q)
  | .round way q step =>
    writeProduct (num (-1)) (writeRound way (writeInside q) (writeInside step))
  | .call name qs => writeProduct (num (-1)) (name ++ '(' :: writeArguments qs ++ [')'])

/-- Arguments with commas between them. -/
def writeArguments : List Quantity → Text
  | [] => []
  | [q] => writeInside q
  | q :: r => writeInside q ++ ", ".toList ++ writeArguments r

end

/-- **A quantity.** -/
def write : Quantity → Text
  | .amount a => a.write false
  | q => writeInside q

end Quantity

end ModuleHooks.Css
