import ModuleHooks.Binary.Basic
/-!
# Decimal texts of binary numbers

The fewest decimal digits that read back to the same number, and, among those of that
length, the nearest. For each number of digits there are two candidates, the neighbours
of the number on that decimal grid; the first grid on which one of them reads back wins.

How the digits are laid out is for those who write them; this library writes numbers in
full, without a power of ten.
-/

namespace ModuleHooks.Binary

/-- **A decimal**: `digits · 10 ^ exponent`. -/
structure Decimal where
  /-- The digits as one whole number. -/
  digits : Nat
  /-- The power of ten. -/
  exponent : Int
  deriving DecidableEq, Repr

/-- The decimal without zeros at its end. The first argument bounds their number. -/
def Decimal.trimmed : Nat → Decimal → Decimal
  | 0, d => d
  | n + 1, d =>
    if d.digits ≠ 0 && d.digits % 10 = 0 then trimmed n ⟨d.digits / 10, d.exponent + 1⟩ else d

/-- The largest `k` with `10 ^ k ≤ num / den`, looked for from `k` downwards. The first
argument bounds the search. -/
def log10From : Nat → Int → Nat → Nat → Int
  | 0, k, _, _ => k
  | n + 1, k, num, den =>
    let fits := if k ≥ 0 then den * Nat.pow 10 k.toNat ≤ num else den ≤ num * Nat.pow 10 (-k).toNat
    if fits then k else log10From n (k - 1) num den

/-- The largest `k` with `10 ^ k ≤ num / den`. -/
def log10Ratio (num den : Nat) : Int :=
  let bits := log2Ratio num den
  log10From 8 (bits * 30103 / 100000 + 2) num den

/-- The neighbours of a ratio on the grid `10 ^ k`, the nearer one first. -/
def neighbours (num den : Nat) (k : Int) : List Decimal :=
  let (n, d) := if k ≥ 0 then (num, den * Nat.pow 10 k.toNat) else (num * Nat.pow 10 (-k).toNat, den)
  let low := n / d
  if 2 * (n % d) < d || (2 * (n % d) = d && low % 2 = 0) then [⟨low, k⟩, ⟨low + 1, k⟩]
  else [⟨low + 1, k⟩, ⟨low, k⟩]

/-- Whether a decimal reads back to the number. -/
def readsBack (f : BinaryFormat) (x : Binary) (d : Decimal) : Bool :=
  eq (ofDecimal f x.isNegative d.digits d.exponent) x

/-- The decimal of at least `k` digits that reads back, on the first grid that has
one. The first argument bounds the number of digits. -/
def shortestFrom (f : BinaryFormat) (x : Binary) (num den : Nat) (top : Int) :
    Nat → Int → Decimal
  | 0, k => (neighbours num den (top - k)).headD ⟨0, 0⟩
  | n + 1, k =>
    match (neighbours num den (top - k)).find? (readsBack f x) with
    | some d => d
    | none => shortestFrom f x num den top n (k + 1)

/-- **The shortest decimal that reads back** to the absolute value of a number. -/
def shortest (f : BinaryFormat) (x : Binary) : Decimal :=
  let (num, den) := ratio x
  if num = 0 then ⟨0, 0⟩
  else (shortestFrom f x num den (log10Ratio num den) 17 0).trimmed 400

/-- The decimal written in full: the whole part, and the fraction if there is one. -/
def Decimal.parts (d : Decimal) : Text × Text :=
  let ds := Text.ofNat d.digits
  if d.exponent ≥ 0 then
    (if d.digits = 0 then ds else ds ++ List.replicate d.exponent.toNat '0', [])
  else
    let places := (-d.exponent).toNat
    let padded := List.replicate (places + 1 - ds.length) '0' ++ ds
    (padded.take (padded.length - places), padded.drop (padded.length - places))

/-- The text of a decimal written in full. -/
def Decimal.render (d : Decimal) : Text :=
  let (whole, fraction) := d.parts
  if fraction = [] then whole else whole ++ '.' :: fraction

/-- The text of a decimal by its digits, a point after the first one, and a power of
ten. -/
def Decimal.scientific (d : Decimal) : Text :=
  let ds := Text.ofNat d.digits
  let exponent := d.exponent + ds.length - 1
  match ds with
  | [c] => c :: 'e' :: Text.ofInt exponent
  | c :: r => c :: '.' :: r ++ 'e' :: Text.ofInt exponent
  | [] => []

/-- How many digits a decimal has before its point; if negative, how many zeros come
right after the point. -/
def Decimal.magnitude (d : Decimal) : Int := d.exponent + (Text.ofNat d.digits).length

/-- **The text of a number**, by its shortest decimal, written in full. -/
def render (f : BinaryFormat) (x : Binary) : Text :=
  match x with
  | .nan => "NaN"
  | .infinite s => (if s then ['-'] else []) ++ "inf".toList
  | .finite s _ _ => (if s then ['-'] else []) ++ (shortest f x).render

/-- The value of a list of decimal digits. -/
def digitsValue (t : Text) : Nat := t.foldl (fun n c => n * 10 + (c.toNat - 48)) 0

/-- **The number of the format that a text of digits means**: a whole part, a fraction
and a power of ten. -/
def ofParts (f : BinaryFormat) (negative : Bool) (whole fraction : Text) (exponent : Int) :
    Binary :=
  ofDecimal f negative (digitsValue (whole ++ fraction)) (exponent - fraction.length)

end ModuleHooks.Binary
