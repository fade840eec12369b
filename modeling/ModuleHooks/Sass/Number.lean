import ModuleHooks.Binary.Decimal
/-!
# Numbers with units

A number has units above and below a line. Numbers are compared with a little tolerance:
two of them are the same when they differ by no more than the eleventh decimal and round
to the same eleventh decimal. A number that was written as a quotient remembers its two
parts, and is written as the quotient again until it is computed with.
-/

namespace ModuleHooks.Sass

/-- **The units of a number.** -/
structure Units where
  /-- The units above the line. -/
  above : List Text
  /-- The units below the line. -/
  below : List Text := []
  deriving DecidableEq, Repr, Inhabited

/-- What a unit measures, with its size among the units that measure the same, as a
ratio. -/
def unitSize? (unit : Text) : Option (Nat × Nat × Nat) :=
  let sizes : List (String × Nat × Nat × Nat) :=
    [("px", 0, 1, 1), ("in", 0, 96, 1), ("cm", 0, 9600, 254), ("mm", 0, 960, 254),
      ("q", 0, 240, 254), ("pt", 0, 4, 3), ("pc", 0, 16, 1), ("deg", 1, 1, 1),
      ("grad", 1, 9, 10), ("turn", 1, 360, 1), ("rad", 1, 57295779513082320877, Nat.pow 10 18),
      ("s", 2, 1000, 1), ("ms", 2, 1, 1), ("Hz", 3, 1, 1), ("kHz", 3, 1000, 1),
      ("dpi", 4, 1, 1), ("dpcm", 4, 254, 100), ("dppx", 4, 96, 1)]
  (sizes.find? fun s => s.1.toList == unit).map (·.2)

/-- The units that are written in one way only. -/
def knownUnits : List Text :=
  List.map String.toList
    ["px", "mm", "in", "cm", "q", "pt", "pc", "em", "rem", "lh", "%", "ex", "ch", "cap", "ic",
      "rlh", "vw", "vh", "vmin", "vmax", "vi", "vb", "deg", "grad", "rad", "turn", "s", "ms",
      "dpi", "dpcm", "dppx", "x", "fr"]

namespace Units

/-- No unit. -/
def none : Units := ⟨[], []⟩

/-- One unit. -/
def single (unit : Text) : Units := ⟨[unit], []⟩

/-- The unit of a name; units that are known are written in their own way. -/
def ofName (name : Text) : Units :=
  let low := Text.lowerAscii name
  if low = ("hz" : Text) then single "Hz"
  else if low = ("khz" : Text) then single "kHz"
  else if List.elem low knownUnits then single low
  else single name

/-- Whether there is no unit. -/
def isNone (u : Units) : Bool := u.above.isEmpty && u.below.isEmpty

/-- Whether there is more than one unit above the line, or any below it. -/
def isComplex (u : Units) : Bool := u.above.length > 1 || !u.below.isEmpty

/-- The units turned upside down. -/
def invert (u : Units) : Units := ⟨u.below, u.above⟩

/-- **The units, written.** -/
def write (u : Units) : Text :=
  let above := Text.join "*" u.above
  let below := Text.join "*" u.below
  match u.above, u.below with
  | _, [] => above
  | [], [_] => below ++ "^-1".toList
  | [], _ => '(' :: below ++ ")^-1".toList
  | _, _ => above ++ '/' :: below

/-- Whether two units measure the same. -/
def measureSame (a b : Text) : Bool :=
  a == b ||
    match unitSize? a, unitSize? b with
    | some x, some y => x.1 == y.1
    | _, _ => false

/-- Whether numbers with these units can be compared and added. -/
def comparable (u v : Units) : Bool :=
  v.isNone || u.isNone ||
    match u.above, u.below, v.above, v.below with
    | [a], [], [b], [] => measureSame a b
    | _, _, _, _ => u == v

end Units

/-! ## Doubles -/

/-- The sum of two doubles. -/
def plus (x y : Binary) : Binary := Binary.add .double x y
/-- The difference of two doubles. -/
def minus (x y : Binary) : Binary := Binary.sub .double x y
/-- The product of two doubles. -/
def times (x y : Binary) : Binary := Binary.mul .double x y
/-- The quotient of two doubles. -/
def per (x y : Binary) : Binary := Binary.div .double x y
/-- The double of a whole number. -/
def whole (n : Int) : Binary := Binary.ofInt .double n
/-- The double nearest to a ratio. -/
def fraction (num den : Nat) : Binary := Binary.ofRatio .double false num den

/-- Whether two doubles are the same up to the eleventh decimal. -/
def nearlyEq (x y : Binary) : Bool :=
  Binary.eq x y ||
    (Binary.le (minus x y).abs (fraction 1 (Nat.pow 10 11)) &&
      (times x (whole (Nat.pow 10 11))).toInt .nearest == (times y (whole (Nat.pow 10 11))).toInt .nearest
      && x.isFinite && y.isFinite)

/-- Whether a double is smaller than another one, and not nearly the same. -/
def nearlyLt (x y : Binary) : Bool := Binary.lt x y && !nearlyEq x y

/-- Whether a double is smaller than another one, or nearly the same. -/
def nearlyLe (x y : Binary) : Bool := Binary.lt x y || nearlyEq x y

/-- The order of two doubles, where those that are nearly the same are equal. -/
def nearlyCompare? (x y : Binary) : Option Ordering :=
  if nearlyEq x y then some .eq else Binary.compare? x y

/-- The whole number that a double nearly is. -/
def nearlyInt? (x : Binary) : Option Int :=
  if x.isFinite && nearlyEq x (x.toWhole .double .nearest) then some (x.toInt .nearest) else none

/-- The double brought to a whole number; what is nearly a half goes up, or down under
nought. -/
def nearlyRound (x : Binary) : Binary :=
  let part := Binary.rem .double x (whole 1)
  let half := fraction 1 2
  if Binary.lt .zero x then
    if nearlyLt part half then x.toWhole .double .down else x.toWhole .double .up
  else if nearlyLe (plus part (whole 1)) half then x.toWhole .double .down
  else x.toWhole .double .up

/-- The remainder with the sign of the divisor. -/
def modulo (x y : Binary) : Binary :=
  let euclid :=
    let r := Binary.rem .double x y
    if Binary.lt r .zero then plus r y.abs else r
  if y.isNan || x.isNan || y.isZero then .nan
  else if Binary.lt .zero y then euclid
  else if euclid.isZero then .zero
  else plus euclid y

/-- A double between two others. -/
def clamp (x low high : Binary) : Binary :=
  if Binary.lt x low then low else if Binary.lt high x then high else x

/-- **A double, written**: in full, with at most ten decimals. -/
def writeDouble : Binary → Text
  | .nan => "NaN"
  | .infinite s => (if s then ['-'] else []) ++ "Infinity".toList
  | .finite s m e =>
    let (num, den) := Binary.ratio (.finite s m e)
    let scaled := Binary.divideToEven (num * Nat.pow 10 10) den
    let d := Binary.Decimal.trimmed 400 ⟨scaled, -10⟩
    if scaled = 0 then ['0']
    else (if s then ['-'] else []) ++ d.render

/-- What is said about a double that is no whole number: it is told in full. -/
def notWhole (x : Binary) : Text := Binary.render .double x ++ " is not an int.".toList

/-! ## Numbers -/

/-- **A number with units.** -/
inductive Number where
  /-- A value with its units, and the two parts of the quotient it was written as. -/
  | of (value : Binary) (units : Units) (quotient : Option (Number × Number))
  deriving Inhabited

namespace Number

/-- The value. -/
def value : Number → Binary
  | .of v _ _ => v

/-- The units. -/
def units : Number → Units
  | .of _ u _ => u

/-- A number that was not written as a quotient. -/
def plain (value : Binary) (units : Units := .none) : Number := .of value units none

/-- A whole number without units. -/
def ofInt (n : Int) : Number := plain (whole n)

/-- The number, computed: how it was written is forgotten. -/
def computed : Number → Number
  | .of v u _ => .of v u none

/-- What a value in one unit has to be multiplied by for another unit. -/
def factor (fromUnit toUnit : Text) : Binary :=
  if fromUnit = toUnit then whole 1
  else
    match unitSize? fromUnit, unitSize? toUnit with
    | some (_, a, b), some (_, c, d) => fraction (a * d) (b * c)
    | _, _ => whole 1

/-- The value of a number in other, comparable units. -/
def valueIn (n : Number) (units : Units) : Binary :=
  match n.units.above, n.units.below, units.above, units.below with
  | [a], [], [b], [] => if a = b then n.value else times n.value (factor a b)
  | _, _, _, _ => n.value

/-- The units of a sum. -/
def commonUnits (m n : Number) : Units := if m.units.isNone then n.units else m.units

/-- Whether two numbers are the same. A number without units is never the same as one
with units. -/
def same (m n : Number) : Bool :=
  if m.units.isNone != n.units.isNone then false
  else Units.comparable m.units n.units && nearlyEq m.value (n.valueIn m.units)

/-- The order of two numbers with comparable units. -/
def order? (m n : Number) : Option Ordering := nearlyCompare? m.value (n.valueIn m.units)

/-- The sum of two numbers with comparable units. -/
def add (m n : Number) : Number := plain (plus m.value (n.valueIn m.units)) (commonUnits m n)

/-- The difference of two numbers with comparable units. -/
def sub (m n : Number) : Number := plain (minus m.value (n.valueIn m.units)) (commonUnits m n)

/-- The remainder of two numbers with comparable units. -/
def rem (m n : Number) : Number := plain (modulo m.value (n.valueIn m.units)) (commonUnits m n)

/-- The number with the opposite sign. -/
def neg (n : Number) : Number := plain n.value.neg n.units

/-- The first unit that measures the same is taken away, with the factor that remains. -/
def cancel? (unit : Text) : List Text → Option (Binary × List Text)
  | [] => none
  | u :: r =>
    if Units.measureSame unit u then some (factor unit u, r)
    else (cancel? unit r).map fun x => (x.1, u :: x.2)

/-- Units above the line against units below it. -/
def cancelAll : List Text → List Text → Binary → Binary × List Text × List Text
  | [], below, v => (v, [], below)
  | u :: above, below, v =>
    match cancel? u below with
    | some (f, below) => cancelAll above below (times v f)
    | none =>
      let (v, above, below) := cancelAll above below v
      (v, u :: above, below)

/-- A value with the units of a product. -/
def withProduct (v : Binary) (u w : Units) : Number :=
  let (v, above₁, below₂) := cancelAll u.above w.below v
  let (v, above₂, below₁) := cancelAll w.above u.below v
  plain v ⟨above₁ ++ above₂, below₁ ++ below₂⟩

/-- The product. -/
def mul (m n : Number) : Number := withProduct (times m.value n.value) m.units n.units

/-- The quotient. -/
def div (m n : Number) : Number := withProduct (Sass.per m.value n.value) m.units n.units.invert

/-- The number as a quotient of two others, as it was written. -/
def withQuotient (q m n : Number) : Number := .of q.value q.units (some (m, n))

/-- The value and the units, written. -/
def write (n : Number) : Text := writeDouble n.value ++ n.units.write

end Number

end ModuleHooks.Sass
