import ModuleHooks.Binary.Basic
/-!
# Elementary functions

Roots, logarithms, powers and the functions of the circle. They are computed on fixed
points with many more binary places than a number of any format has, by series that end
when nothing is added any more, and the result is rounded once.
-/

namespace ModuleHooks.Binary

/-- How many binary places a fixed point has. -/
def fixedPlaces : Nat := 200

/-- **A fixed point**: a whole number of the smallest parts of one. -/
abbrev Fixed := Int

namespace Fixed

/-- One. -/
def one : Fixed := Int.ofNat (Nat.pow 2 fixedPlaces)

/-- The fixed point of a ratio. -/
def ofRatio (num : Int) (den : Nat) : Fixed := num * one / den

/-- The fixed point of a binary number. -/
def ofBinary (x : Binary) : Fixed :=
  let (num, den) := ratio x
  ofRatio (if isNegative x then -(num : Int) else num) den

/-- The number of a format nearest to a fixed point. -/
def toBinary (f : BinaryFormat) (x : Fixed) : Binary :=
  Binary.ofRatio f (x < 0) x.natAbs (Nat.pow 2 fixedPlaces)

/-- The product. -/
def mul (x y : Fixed) : Fixed := x * y / one

/-- The quotient. -/
def div (x y : Fixed) : Fixed := if y = 0 then 0 else x * one / y

/-- The largest number whose square is not greater. -/
def root (n : Nat) : Nat :=
  (List.range (Nat.log2 n / 2 + 1)).foldr
    (fun i r => if (r + Nat.pow 2 i) * (r + Nat.pow 2 i) ≤ n then r + Nat.pow 2 i else r) 0

/-- The square root. -/
def sqrt (x : Fixed) : Fixed := Int.ofNat (root (x.natAbs * Nat.pow 2 fixedPlaces))

/-- A series: each term is the one before it times a factor, divided by a number that
goes with its position; the terms are added with their divisors. The first argument
bounds the number of terms. -/
def series (factor : Fixed) (step weight : Nat → Nat) : Nat → Nat → Fixed → Fixed → Fixed
  | 0, _, _, sum => sum
  | n + 1, k, term, sum =>
    if term = 0 then sum
    else series factor step weight n (k + 1) (mul term factor / step k) (sum + term / weight k)

/-- The area tangent of a small number. -/
def artanh (x : Fixed) : Fixed := series (mul x x) (fun _ => 1) (fun k => 2 * k + 1) 400 0 x 0

/-- The logarithm of two. -/
def log2 : Fixed := 2 * artanh (ofRatio 1 3)

/-- The power of the base of the logarithms. -/
def exp (x : Fixed) : Fixed :=
  let k := x / log2
  let r := x - k * log2
  let e := series r (fun k => k + 1) (fun _ => 1) 400 0 one 0
  if k ≥ 0 then e * Nat.pow 2 (min k.toNat 2000) else e / Nat.pow 2 (min (-k).toNat 2000)

/-- The angle whose tangent is a number. The angle is halved three times, so that its
series is short. -/
def arctan (x : Fixed) : Fixed :=
  let halve (t : Fixed) : Fixed := div t (one + sqrt (one + mul t t))
  let isBig := decide (x.natAbs > one.natAbs)
  let t := halve (halve (halve (if isBig then div one x else x)))
  let small := 8 * series (-(mul t t)) (fun _ => 1) (fun k => 2 * k + 1) 400 0 t 0
  if isBig then (if x < 0 then -quarter - small else quarter - small) else small
where
  /-- A quarter of a full turn. -/
  quarter : Fixed :=
    let inverse (n : Nat) : Fixed :=
      let t := ofRatio 1 n
      series (-(mul t t)) (fun _ => 1) (fun k => 2 * k + 1) 400 0 t 0
    2 * (4 * inverse 5 - inverse 239)

/-- Half of a full turn. -/
def pi : Fixed := 2 * arctan.quarter

/-- The sine. -/
def sin (x : Fixed) : Fixed :=
  let r := x - (x / (2 * pi)) * (2 * pi)
  let r := if r > pi then r - 2 * pi else r
  series (-(mul r r)) (fun k => (2 * k + 2) * (2 * k + 3)) (fun _ => 1) 400 0 r 0

/-- The cosine. -/
def cos (x : Fixed) : Fixed := sin (x + arctan.quarter)

end Fixed

/-- **The square root.** -/
def sqrt (f : BinaryFormat) : Binary → Binary
  | .nan => .nan
  | .infinite s => if s then .nan else .infinite false
  | .finite s m e =>
    if m = 0 then .finite s m e
    else if s then .nan
    else
      let half := (e - 400) / 2
      let scaled := m * Nat.pow 2 (e - 2 * half).toNat
      Binary.round f false (Fixed.root scaled) half

/-- The logarithm as a fixed point. -/
def logFixed (m : Nat) (e : Int) : Fixed :=
  let bits := Nat.log2 m
  let t := Fixed.ofRatio m (Nat.pow 2 bits)
  2 * Fixed.artanh (Fixed.div (t - Fixed.one) (t + Fixed.one)) + (e + bits) * Fixed.log2

/-- **The natural logarithm.** -/
def log (f : BinaryFormat) : Binary → Binary
  | .nan => .nan
  | .infinite s => if s then .nan else .infinite false
  | .finite s m e =>
    if m = 0 then .infinite true else if s then .nan else (logFixed m e).toBinary f

/-- **The power of the base of the natural logarithms.** -/
def exponential (f : BinaryFormat) : Binary → Binary
  | .nan => .nan
  | .infinite s => if s then .finite false 0 0 else .infinite false
  | .finite s m e =>
    if m = 0 then .finite false 1 0
    else (Fixed.exp (Fixed.ofBinary (.finite s m e))).toBinary f

/-- A product of equal factors. -/
def powNat (m : Nat) (e : Int) (n : Nat) : Nat × Int := (Nat.pow m n, e * n)

/-- **A power.** Whole exponents that are not too big are computed exactly. -/
def pow (f : BinaryFormat) (x y : Binary) : Binary :=
  if isZero y then .finite false 1 0
  else
    match x, y with
    | .nan, _ => .nan
    | _, .nan => .nan
    | .finite s m e, .finite t _ _ =>
      let n := (toInt .toZero y).natAbs
      let isOdd := n % 2 = 1
      if isWhole y && n ≤ 4096 then
        let (p, q) := powNat m e n
        let sign := s && isOdd
        if t then div f (.finite sign 1 0) (.finite false p q) else round f sign p q
      else if m = 0 then if t then .infinite false else .finite false 0 0
      else if s && !isWhole y then .nan
      else
        let r := Fixed.exp (Fixed.mul (logFixed m e) (Fixed.ofBinary y))
        (if s && isOdd then -r else r).toBinary f
    | .infinite s, y => if isNegative y then .finite false 0 0 else .infinite (s && false)
    | x, .infinite t =>
      match compare? (abs x) (.finite false 1 0) with
      | some .lt => if t then .infinite false else .finite false 0 0
      | some .gt => if t then .finite false 0 0 else .infinite false
      | _ => .finite false 1 0

/-- The sine of an angle. -/
def sin (f : BinaryFormat) (x : Binary) : Binary :=
  if isFinite x then (Fixed.sin (Fixed.ofBinary x)).toBinary f else .nan

/-- The cosine of an angle. -/
def cos (f : BinaryFormat) (x : Binary) : Binary :=
  if isFinite x then (Fixed.cos (Fixed.ofBinary x)).toBinary f else .nan

/-- The tangent of an angle. -/
def tan (f : BinaryFormat) (x : Binary) : Binary :=
  if isFinite x then
    (Fixed.div (Fixed.sin (Fixed.ofBinary x)) (Fixed.cos (Fixed.ofBinary x))).toBinary f
  else .nan

/-- The angle whose tangent is a number. -/
def arctan (f : BinaryFormat) : Binary → Binary
  | .nan => .nan
  | .infinite s => (if s then -Fixed.arctan.quarter else Fixed.arctan.quarter).toBinary f
  | x => (Fixed.arctan (Fixed.ofBinary x)).toBinary f

/-- The angle whose sine is a number. -/
def arcsin (f : BinaryFormat) (x : Binary) : Binary :=
  match compare? (abs x) (.finite false 1 0) with
  | some .lt =>
    let t := Fixed.ofBinary x
    (Fixed.arctan (Fixed.div t (Fixed.sqrt (Fixed.one - Fixed.mul t t)))).toBinary f
  | some .eq => arctan f (.infinite (isNegative x))
  | _ => .nan

/-- The angle whose cosine is a number. -/
def arccos (f : BinaryFormat) (x : Binary) : Binary :=
  match arcsin f x with
  | .finite s m e => sub f (arctan f (.infinite false)) (.finite s m e)
  | y => y

/-- The angle of a point. -/
def arctan₂ (f : BinaryFormat) (y x : Binary) : Binary :=
  let angle := if isZero x then arctan f (.infinite (isNegative y)) else arctan f (div f y x)
  let half := Fixed.pi.toBinary f
  if isNan x || isNan y then .nan
  else if isZero y then if isNegative x then (if isNegative y then neg half else half) else y
  else if isNegative x && !isZero x then
    if isNegative y then sub f angle half else add f angle half
  else angle

end ModuleHooks.Binary
