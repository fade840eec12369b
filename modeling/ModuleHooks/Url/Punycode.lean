import ModuleHooks.Text.Basic
/-!
# Punycode

The form in which a label with characters outside ASCII enters a host name: the ASCII
characters first, then the others as differences between their code points and
positions, each difference a number of variable length to the base thirty-six.

`encode` writes a label in this form and `decode?` reads it back.
-/

namespace ModuleHooks.Punycode

/-- The digit of a value below thirty-six. -/
def digit (d : Nat) : Char := if d < 26 then Char.ofNat (97 + d) else Char.ofNat (22 + d)

/-- The threshold of the digit at position `k`. -/
def threshold (k bias : Nat) : Nat :=
  if k ≤ bias then 1 else if bias + 26 ≤ k then 26 else k - bias

/-- Divides the delta until it is small, counting the rounds by thirty-six. The first
argument bounds the rounds. -/
def shrink : Nat → Nat → Nat → Nat × Nat
  | 0, delta, k => (delta, k)
  | n + 1, delta, k => if delta > 455 then shrink n (delta / 35) (k + 36) else (delta, k)

/-- The bias after a difference was written. -/
def adapt (delta points : Nat) (first : Bool) : Nat :=
  let halved := if first then delta / 700 else delta / 2
  let (small, k) := shrink 32 (halved + halved / points) 0
  k + 36 * small / (small + 38)

/-- The digits of a difference. The first argument bounds their number. -/
def digits : Nat → Nat → Nat → Nat → Text
  | 0, _, _, _ => []
  | n + 1, bias, k, q =>
    let t := threshold k bias
    if q < t then [digit q]
    else digit (t + (q - t) % (36 - t)) :: digits n bias (k + 36) ((q - t) / (36 - t))

/-- What is known in the middle of encoding. -/
structure State where
  output : Text := []
  delta : Nat := 0
  bias : Nat := 72
  handled : Nat

/-- One character of the label, while the code point `m` is being inserted. -/
def scan (basics m : Nat) (st : State) (c : Char) : State :=
  if c.toNat < m then { st with delta := st.delta + 1 }
  else if c.toNat = m then
    { output := st.output ++ digits 64 st.bias 36 st.delta
      delta := 0
      bias := adapt st.delta (st.handled + 1) (st.handled == basics)
      handled := st.handled + 1 }
  else st

/-- Inserts the code points in ascending order, coming from the code point `n`. -/
def insertAll (label : Text) (basics : Nat) : List Nat → Nat → State → State
  | [], _, st => st
  | m :: rest, n, st =>
    let st := label.foldl (scan basics m) { st with delta := st.delta + (m - n) * (st.handled + 1) }
    insertAll label basics rest (m + 1) { st with delta := st.delta + 1 }

/-- Inserts a number into an ascending list without repetitions. -/
def insertNumber (x : Nat) : List Nat → List Nat
  | [] => [x]
  | y :: r => if x < y then x :: y :: r else if x = y then y :: r else y :: insertNumber x r

/-- **The encoded form of a label.** -/
def encode (label : Text) : Text :=
  let basic := label.filter (·.toNat < 128)
  let others := (label.filter (·.toNat ≥ 128)).foldl (fun l c => insertNumber c.toNat l) []
  let ext := (insertAll label basic.length others 128 { handled := basic.length }).output
  (if basic = [] then [] else basic ++ ['-']) ++ ext

/-! ## Reading -/

/-- The value of a digit. -/
def digitValue? (c : Char) : Option Nat :=
  if c.isLower then some (c.toNat - 97)
  else if c.isUpper then some (c.toNat - 65)
  else if c.isDigit then some (c.toNat - 22)
  else none

/-- The bound below which all numbers stay while a label is read. -/
def bound : Nat := 4294967296

/-- Reads a difference: the sum `total` so far grows by the digits, each of which counts
`weight` times its value. Returns the sum and the text after the last digit. -/
def difference? (bias k weight total : Nat) : Text → Option (Nat × Text)
  | [] => none
  | c :: r =>
    match digitValue? c with
    | none => none
    | some d =>
      let t := threshold k bias
      let sum := total + d * weight
      if sum ≥ bound then none
      else if d < t then some (sum, r)
      else if weight * (36 - t) ≥ bound then none
      else difference? bias (k + 36) (weight * (36 - t)) sum r

/-- The text with a character put in at a position. -/
def insertAt (i : Nat) (c : Char) (t : Text) : Text := t.take i ++ c :: t.drop i

/-- Reads differences and inserts the characters they stand for: from the code point `n`
and the position `i` on, into the label read so far. The first argument bounds the
number of differences. -/
def readAll : Nat → Nat → Nat → Nat → Text → Text → Option Text
  | _, _, _, _, label, [] => some label
  | 0, _, _, _, _, _ => none
  | fuel + 1, n, i, bias, label, t =>
    match difference? bias 36 1 i t with
    | none => none
    | some (sum, rest) =>
      let size := label.length + 1
      let point := n + sum / size
      if h : Nat.isValidChar point then
        readAll fuel point (sum % size + 1) (adapt (sum - i) size (i == 0))
          (insertAt (sum % size) (Char.ofNatAux point h) label) rest
      else none

/-- **The label that was encoded.** The ASCII characters stand before the last hyphen,
unless that is the first character. -/
def decode? (t : Text) : Option Text :=
  let (basic, rest) :=
    match Text.splitLast? '-' t with
    | some ([], _) => ([], t)
    | some (before, after) => (before, after)
    | none => ([], t)
  readAll rest.length 128 0 72 basic rest

end ModuleHooks.Punycode
