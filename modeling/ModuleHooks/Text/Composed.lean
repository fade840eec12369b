import ModuleHooks.Text.CodePoints
import ModuleHooks.Text.ComposedTable
/-!
# Composed text

A letter and the marks on it may be written as one character or as several. The composed
form of a text takes its characters apart, brings the marks of each letter into the
order of their combining classes and puts the parts together again as far as there are
characters for them. Syllables of Hangul are taken apart and put together by
computation, all others by a table of pairs.

Only characters that come back in composition are in the table. Those that Unicode takes
apart for good do not occur in the texts that are composed here.
-/

namespace ModuleHooks.Text

open CodePoints

/-! ## Pairs -/

/-- The parts of the composed characters, in the order of the latter. -/
def composedPairs : Table (Nat × Nat) :=
  let pairs := (words ComposedTable.pairWords).foldl (fun acc w =>
    let (gap, parts) := halves '=' w
    let (first, second) := halves '+' parts
    (acc.1 + hexNumber gap + 1,
      acc.2.push (acc.1 + hexNumber gap, hexNumber first, hexNumber second))) (0, #[])
  pairs.2

/-- The combining classes. -/
def combiningClasses : Table Nat :=
  ofClassWords (fun t => t.foldl (fun n c => n * 10 + (hexValue? c).getD 0) 0)
    ComposedTable.combiningWords

/-- **The combining class of a character**; that of a letter is zero. -/
def combiningClass (c : Char) : Nat :=
  if c.toNat < 0x300 then 0 else (value? combiningClasses c).getD 0

/-- Whether a code point is a syllable of Hangul. -/
def isHangulSyllable (n : Nat) : Bool := 0xAC00 ≤ n && n < 0xD7A4

/-- The two characters that a composed character stands for. -/
def parts? (c : Char) : Option (Char × Char) :=
  let n := c.toNat
  if n < 0xC0 then none
  else if isHangulSyllable n then
    let place := n - 0xAC00
    if place % 28 = 0 then
      some (Char.ofNat (0x1100 + place / 588), Char.ofNat (0x1161 + place % 588 / 28))
    else some (Char.ofNat (n - place % 28), Char.ofNat (0x11A7 + place % 28))
  else
    (run? composedPairs n).bind fun r =>
      if r.1 = n then some (Char.ofNat r.2.1, Char.ofNat r.2.2) else none

/-- The syllable of Hangul that two characters compose to. -/
def hangulSyllable? (first second : Nat) : Option Nat :=
  if 0x1100 ≤ first && first < 0x1113 && 0x1161 ≤ second && second < 0x1176 then
    some (0xAC00 + ((first - 0x1100) * 21 + (second - 0x1161)) * 28)
  else if isHangulSyllable first && (first - 0xAC00) % 28 == 0 && 0x11A8 ≤ second &&
      second < 0x11C3 then
    some (first + (second - 0x11A7))
  else none

/-- The character that two characters compose to. -/
def compose? (first second : Char) : Option Char :=
  if second.toNat < 0x300 then none
  else
    match hangulSyllable? first.toNat second.toNat with
    | some n => some (Char.ofNat n)
    | none =>
      (composedPairs.find? fun p => p.2.1 == first.toNat && p.2.2 == second.toNat).map fun p =>
        Char.ofNat p.1

/-! ## Texts -/

/-- The characters that a character is made of. A character is the first part of
another at most three times, and the first argument bounds the steps. -/
def takenApart : Nat → Char → Text
  | 0, c => [c]
  | n + 1, c =>
    match parts? c with
    | none => [c]
    | some (first, second) => takenApart n first ++ takenApart n second

/-- Moves a mark behind the marks of lower classes that follow it. -/
def settle (c : Char) : Text → Text
  | [] => [c]
  | d :: r =>
    if 0 < combiningClass d && combiningClass d < combiningClass c then d :: settle c r
    else c :: d :: r

/-- The text with the marks of each letter in the order of their classes. -/
def ordered : Text → Text
  | [] => []
  | c :: r => settle c (ordered r)

/-- Puts together what follows the letter `base`, on which the marks `marks` remain, the
last one first. A mark of the same class, or of no class, keeps what follows it from
reaching the letter. -/
def joined (base : Char) (marks : Text) : Text → Text
  | [] => base :: marks.reverse
  | c :: r =>
    let free :=
      match marks with
      | [] => true
      | m :: _ => combiningClass m < combiningClass c
    match if free then compose? base c else none with
    | some d => joined d marks r
    | none =>
      if combiningClass c = 0 then base :: marks.reverse ++ joined c [] r
      else joined base (c :: marks) r

/-- Puts together a text of which the marks are in order. -/
def putTogether : Text → Text
  | [] => []
  | c :: r => if combiningClass c = 0 then joined c [] r else c :: putTogether r

/-- **The composed form of a text.** -/
def composed (t : Text) : Text :=
  if t.all (·.toNat < 0x300) then t else putTogether (ordered (t.flatMap (takenApart 4)))

end ModuleHooks.Text
