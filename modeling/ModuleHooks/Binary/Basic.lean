import ModuleHooks.Text.Basic
/-!
# Binary floating point

Numbers with a sign, a whole mantissa and a power of two, together with the infinities
and the one value that is no number. A *format* says how many bits a mantissa has and
which exponents there are; every operation computes its result exactly and then rounds
it once to the nearest number of the format, ties to the even mantissa.

All of this is arithmetic on whole numbers, so closed calculations can be checked by
evaluation.
-/

namespace ModuleHooks

/-- **A format of binary numbers.** -/
structure BinaryFormat where
  /-- The number of bits of a mantissa. -/
  precision : Nat
  /-- The exponent of the smallest numbers. -/
  minExponent : Int
  /-- The exponent of the largest numbers. -/
  maxExponent : Int
  deriving DecidableEq, Repr

namespace BinaryFormat

/-- The format of 32 bits. -/
def single : BinaryFormat := ⟨24, -149, 104⟩

/-- The format of 64 bits. -/
def double : BinaryFormat := ⟨53, -1074, 971⟩

end BinaryFormat

/-- **A binary number.** -/
inductive Binary where
  /-- The number `± mantissa · 2 ^ exponent`. -/
  | finite (negative : Bool) (mantissa : Nat) (exponent : Int)
  /-- One of the infinities. -/
  | infinite (negative : Bool)
  /-- Not a number. -/
  | nan
  deriving DecidableEq, Repr, Inhabited

namespace Binary

/-- Zero. -/
def zero : Binary := .finite false 0 0

/-! ## Rounding -/

/-- The quotient rounded to the nearest whole number, ties to even. -/
def divideToEven (num den : Nat) : Nat :=
  let q := num / den
  let r := num % den
  if 2 * r < den then q
  else if 2 * r > den then q + 1
  else if q % 2 = 0 then q else q + 1

/-- The largest `k` with `2 ^ k ≤ num / den`. -/
def log2Ratio (num den : Nat) : Int :=
  let a : Int := Nat.log2 num - Nat.log2 den
  let fits := if a ≥ 0 then den * Nat.pow 2 a.toNat ≤ num else den ≤ num * Nat.pow 2 (-a).toNat
  if fits then a else a - 1

/-- **The number of the format nearest to a ratio.** -/
def ofRatio (f : BinaryFormat) (negative : Bool) (num den : Nat) : Binary :=
  if num = 0 || den = 0 then .finite negative 0 0
  else
    let e := max f.minExponent (log2Ratio num den - f.precision + 1)
    let m :=
      if e ≥ 0 then divideToEven num (den * Nat.pow 2 e.toNat)
      else divideToEven (num * Nat.pow 2 (-e).toNat) den
    let (m, e) := if m = Nat.pow 2 f.precision then (Nat.pow 2 (f.precision - 1), e + 1) else (m, e)
    if e > f.maxExponent then .infinite negative else .finite negative m e

/-- The number of the format nearest to `± m · 2 ^ e`. -/
def round (f : BinaryFormat) (negative : Bool) (m : Nat) (e : Int) : Binary :=
  if e ≥ 0 then ofRatio f negative (m * Nat.pow 2 e.toNat) 1 else ofRatio f negative m (Nat.pow 2 (-e).toNat)

/-- The number of the format nearest to a whole number. -/
def ofInt (f : BinaryFormat) (n : Int) : Binary := ofRatio f (n < 0) n.natAbs 1

/-- **The number of the format nearest to `± digits · 10 ^ exponent`.** -/
def ofDecimal (f : BinaryFormat) (negative : Bool) (digits : Nat) (exponent : Int) : Binary :=
  if exponent ≥ 0 then
    if digits ≠ 0 && exponent > 400 then .infinite negative
    else ofRatio f negative (digits * Nat.pow 10 exponent.toNat) 1
  else if (-exponent).toNat > 400 + (Nat.log2 digits) then .finite negative 0 0
  else ofRatio f negative digits (Nat.pow 10 (-exponent).toNat)

/-- The number in another format. -/
def convert (f : BinaryFormat) : Binary → Binary
  | .finite s m e => round f s m e
  | x => x

/-! ## Observing -/

/-- The numerator and the denominator of the absolute value of a finite number. -/
def ratio : Binary → Nat × Nat
  | .finite _ m e => if e ≥ 0 then (m * Nat.pow 2 e.toNat, 1) else (m, Nat.pow 2 (-e).toNat)
  | _ => (0, 1)

/-- Whether the sign is negative. -/
def isNegative : Binary → Bool
  | .finite s _ _ => s
  | .infinite s => s
  | .nan => false

/-- Whether the number is zero, of either sign. -/
def isZero : Binary → Bool
  | .finite _ 0 _ => true
  | _ => false

/-- Whether the number is finite. -/
def isFinite : Binary → Bool
  | .finite _ _ _ => true
  | _ => false

/-- Whether the value is not a number. -/
def isNan : Binary → Bool
  | .nan => true
  | _ => false

/-- The signed numerator over a common power of two with another number. -/
def aligned (s : Bool) (m : Nat) (e low : Int) : Int :=
  let n : Int := m * Nat.pow 2 (e - low).toNat
  if s then -n else n

/-- The order of two numbers; there is none with what is not a number. -/
def compare? : Binary → Binary → Option Ordering
  | .nan, _ => none
  | _, .nan => none
  | .infinite a, .infinite b =>
    some (if a = b then .eq else if a then .lt else .gt)
  | .infinite a, _ => some (if a then .lt else .gt)
  | _, .infinite b => some (if b then .gt else .lt)
  | .finite s m e, .finite t n d =>
    let low := min e d
    some (compare (aligned s m e low) (aligned t n d low))

/-- Numerical equality. -/
def eq (x y : Binary) : Bool := compare? x y == some .eq

/-- Numerical order. -/
def lt (x y : Binary) : Bool := compare? x y == some .lt

/-- Numerical order or equality. -/
def le (x y : Binary) : Bool := lt x y || eq x y

/-! ## Arithmetic -/

/-- The number with the opposite sign. -/
def neg : Binary → Binary
  | .finite s m e => .finite (!s) m e
  | .infinite s => .infinite (!s)
  | .nan => .nan

/-- The absolute value. -/
def abs : Binary → Binary
  | .finite _ m e => .finite false m e
  | .infinite _ => .infinite false
  | .nan => .nan

/-- The sum. -/
def add (f : BinaryFormat) : Binary → Binary → Binary
  | .nan, _ => .nan
  | _, .nan => .nan
  | .infinite a, .infinite b => if a = b then .infinite a else .nan
  | .infinite a, _ => .infinite a
  | _, .infinite b => .infinite b
  | .finite s m e, .finite t n d =>
    let low := min e d
    let sum := aligned s m e low + aligned t n d low
    if sum = 0 then .finite (s && t) 0 0 else round f (sum < 0) sum.natAbs low

/-- The difference. -/
def sub (f : BinaryFormat) (x y : Binary) : Binary := add f x (neg y)

/-- The product. -/
def mul (f : BinaryFormat) : Binary → Binary → Binary
  | .nan, _ => .nan
  | _, .nan => .nan
  | .infinite a, y => if isZero y then .nan else .infinite (a != isNegative y)
  | x, .infinite b => if isZero x then .nan else .infinite (isNegative x != b)
  | .finite s m e, .finite t n d => round f (s != t) (m * n) (e + d)

/-- The quotient. -/
def div (f : BinaryFormat) : Binary → Binary → Binary
  | .nan, _ => .nan
  | _, .nan => .nan
  | .infinite a, y => if isFinite y then .infinite (a != isNegative y) else .nan
  | x, .infinite b => .finite (isNegative x != b) 0 0
  | .finite s m e, .finite t n d =>
    if n = 0 then if m = 0 then .nan else .infinite (s != t)
    else if e ≥ d then ofRatio f (s != t) (m * Nat.pow 2 (e - d).toNat) n
    else ofRatio f (s != t) m (n * Nat.pow 2 (d - e).toNat)

/-- The remainder of the division that rounds toward zero, with the sign of the
dividend. -/
def rem (f : BinaryFormat) : Binary → Binary → Binary
  | .finite s m e, .finite t n d =>
    if n = 0 then .nan
    else
      let low := min e d
      let r := (aligned false m e low).toNat % (aligned (t && false) n d low).toNat
      if r = 0 then .finite s 0 0 else round f s r low
  | .finite s m e, .infinite _ => .finite s m e
  | _, _ => .nan

/-- How a number is brought to a whole one. -/
inductive Direction where
  | down
  | up
  | toZero
  /-- To the nearest, a half away from zero. -/
  | nearest
  deriving DecidableEq, Repr

/-- **The whole number that a finite number goes to**; `0` for the others. -/
def toInt (d : Direction) : Binary → Int
  | .finite s m e =>
    let (num, den) := ratio (.finite s m e)
    let n :=
      match d with
      | .toZero => num / den
      | .nearest => (2 * num + den) / (2 * den)
      | .down => if s then (num + den - 1) / den else num / den
      | .up => if s then num / den else (num + den - 1) / den
    if s then -(n : Int) else n
  | _ => 0

/-- The number brought to a whole one, which keeps its sign. -/
def toWhole (f : BinaryFormat) (d : Direction) : Binary → Binary
  | .finite s m e => ofRatio f s (toInt d (.finite s m e)).natAbs 1
  | x => x

/-- Whether a number is whole. -/
def isWhole : Binary → Bool
  | .finite s m e =>
    let (num, den) := ratio (.finite s m e)
    num % den = 0
  | _ => false

end Binary

end ModuleHooks
