import ModuleHooks.Binary.Elementary
import ModuleHooks.Sass.Function.Basic
import ModuleHooks.Sass.Operator
/-!
# Functions of numbers
-/

namespace ModuleHooks.Sass.Function

open Sass.Builtin

/-- A number may have no units. -/
def withoutUnits (name : Text) (n : Number) : Builtin Unit :=
  if n.units.isNone then return ()
  else failArg name ("Expected ".toList ++ n.write ++ " to be unitless.".toList)

/-- A function of the value of a number, which keeps its units. -/
def keepingUnits (f : Binary → Binary) : Builtin Value := do
  atMost 1
  let n ← number 0 "number"
  return .number (.plain (f n.value) n.units)

/-- A way to bring a number to a whole one. -/
def toWhole (d : Binary.Direction) : Builtin Value := do
  atMost 1
  let n ← number 0 "number"
  if n.value.isFinite then return .number (.plain (n.value.toWhole .double d) n.units)
  else fail "Infinity or NaN toInt"

/-- A function of the value of a number without units. -/
def ofUnitless (f : Binary → Binary) : Builtin Value := do
  atMost 1
  let n ← number 0 "number"
  unitless "number" n
  return .number (.plain (f n.value))

/-- A function of the value of a number without units, which is told in other words where
it has some. -/
def ofPlain (f : Binary → Binary) (units : Units) : Builtin Value := do
  atMost 1
  let n ← number 0 "number"
  withoutUnits "number" n
  return .number (.plain (f n.value) units)

/-- A function of an angle. -/
def ofAngle (f : Binary → Binary) : Builtin Value := do
  atMost 1
  let n ← number 0 "number"
  if n.units.isNone then return .number (.plain (f n.value))
  else if Units.comparable n.units (Units.single "rad") then
    return .number (.plain (f (n.valueIn (Units.single "rad"))))
  else
    failArg "number" ("Expected ".toList ++ n.write
      ++ " to have an angle unit (deg, grad, rad, turn).".toList)

/-- Two numbers have to be comparable. -/
def compatible (m n : Number) : Builtin Unit :=
  if Units.comparable m.units n.units then return ()
  else
    fail ("Incompatible units ".toList ++ m.units.write ++ " and ".toList ++ n.units.write ++ ['.'])

/-- Two numbers both have units, or both have none. -/
def bothOrNone (first second : Text) (m n : Number) : Builtin Unit :=
  let rest : Text := ". Arguments must all have units or all be unitless."
  match m.units.isNone, n.units.isNone with
  | true, false =>
    fail (first ++ " is unitless but ".toList ++ second ++ " has unit ".toList ++ n.units.write ++ rest)
  | false, true =>
    fail (first ++ " has unit ".toList ++ m.units.write ++ " but ".toList ++ second
      ++ " is unitless".toList ++ rest)
  | _, _ => return ()

/-- The number that comes before all others in some order. -/
def extreme (comesFirst : Ordering) : Builtin Value := do
  atLeastOne
  match ← all with
  | [] => return .null
  | first :: rest =>
    let asPlain (v : Value) : Builtin Number :=
      match v with
      | .number n => return n
      | v => fail (v.inspect ++ " is not a number.".toList)
    let start ← asPlain first
    let best ← rest.foldlM
      (fun best v => do
        let n ← asPlain v
        compatible best n
        return if n.order? best == some comesFirst then n else best)
      start
    return .number best.computed

/-- The quotient of two values. -/
def divide : Builtin Value := do
  atMost 2
  let a ← arg 0 "number1"
  let b ← arg 1 "number2"
  atCall (Operator.quotient a b)

/-- A number between two others. -/
def clampNumber : Builtin Value := do
  atMost 3
  let low ← number 0 "min"
  let n ← number 1 "number"
  let high ← number 2 "max"
  compatible high low
  bothOrNone "$min" "$number" low n
  if !low.units.isNone then bothOrNone "$min" "$max" low high
  compatible n low
  if low.order? n == some .gt then return .number low.computed
  else if low.order? n == some .eq then return .number n.computed
  else
    compatible n high
    if high.order? n == some .lt then return .number high.computed else return .number n.computed

/-- The length of a vector. -/
def hypot : Builtin Value := do
  atLeastOne
  let asPlain (v : Value) : Builtin Number :=
    match v with
    | .number n => return n
    | v => fail (v.inspect ++ " is not a number.".toList)
  match ← all with
  | [] => return .null
  | first :: rest =>
    let start ← asPlain first
    let squares ← rest.zipIdx.mapM fun (v, i) => do
      let n ← asPlain v
      bothOrNone "Argument 1" ("argument ".toList ++ Text.ofNat (i + 2)) start n
      compatible start n
      let x := n.valueIn start.units
      return times x x
    let rest := squares.foldl plus .zero
    return .number (.plain (Binary.sqrt .double (plus (times start.value start.value) rest)) start.units)

/-- A logarithm, to a base or to the natural one. -/
def logarithm : Builtin Value := do
  atMost 2
  let n ← number 0 "number"
  withoutUnits "number" n
  let ln := Binary.log .double n.value
  match ← argOr 1 "base" .null with
  | .null => return .number (.plain ln)
  | v =>
    let base ← asNumber "base" v
    withoutUnits "base" base
    if nearlyEq base.value .zero then return .number (.ofInt 0)
    else return .number (.plain (per ln (Binary.log .double base.value)))

/-- A power. -/
def power : Builtin Value := do
  atMost 2
  let base ← number 0 "base"
  unitless "base" base
  let exponent ← number 1 "exponent"
  unitless "exponent" exponent
  return .number (.plain (Binary.pow .double base.value exponent.value))

/-- A number as a percentage. -/
def percentage : Builtin Value := do
  atMost 1
  let n ← number 0 "number"
  unitless "number" n
  return .number (.plain (times n.value (whole 100)) (Units.single "%"))

/-- **The functions of numbers**, by their names in their module. -/
def math : Functions :=
  let degrees (f : BinaryFormat → Binary → Binary) (x : Binary) : Binary :=
    per (times (f .double x) (whole 180)) (Binary.Fixed.pi.toBinary .double)
  [("round", toWhole .nearest), ("ceil", toWhole .up), ("floor", toWhole .down),
    ("abs", keepingUnits Binary.abs),
    ("min", extreme .lt), ("max", extreme .gt), ("div", divide), ("clamp", clampNumber),
    ("hypot", hypot), ("log", logarithm), ("pow", power), ("percentage", percentage),
    ("sqrt", ofUnitless (Binary.sqrt .double)), ("sin", ofAngle (Binary.sin .double)),
    ("cos", ofAngle (Binary.cos .double)), ("tan", ofAngle (Binary.tan .double)),
    ("asin", ofPlain (degrees Binary.arcsin) (Units.single "deg")),
    ("acos", ofPlain (degrees Binary.arccos) (Units.single "deg")),
    ("atan", ofPlain (degrees Binary.arctan) (Units.single "deg")),
    ("atan2", do
      atMost 2
      let y ← number 0 "y"
      let x ← number 1 "x"
      bothOrNone "$y" "$x" y x
      compatible y x
      let angle (_ : BinaryFormat) (_ : Binary) := Binary.arctan₂ .double y.value (x.valueIn y.units)
      return .number (.plain (degrees angle y.value) (Units.single "deg"))),
    ("unit", do
      atMost 1
      return .text (← number 0 "number").units.write true),
    ("is-unitless", do
      atMost 1
      return .truth (← number 0 "number").units.isNone),
    ("compatible", do
      atMost 2
      let m ← number 0 "number1"
      let n ← number 1 "number2"
      return .truth (Units.comparable m.units n.units))]

/-- The variables of the module of numbers. -/
def mathVariables : List (String × Value) :=
  let n (x : Binary) : Value := .number (.plain x)
  [("pi", n (Binary.Fixed.pi.toBinary .double)),
    ("e", n ((Binary.Fixed.exp Binary.Fixed.one).toBinary .double)),
    ("epsilon", n (.finite false 1 (-52))), ("max-safe-integer", n (whole (Nat.pow 2 53 - 1))),
    ("min-safe-integer", n (whole (1 - Nat.pow 2 53))),
    ("max-number", n (.finite false (Nat.pow 2 53 - 1) 971)), ("min-number", n (.finite false 1 (-1074)))]

end ModuleHooks.Sass.Function
