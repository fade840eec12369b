import ModuleHooks.Text.Utf8
/-!
# A short keyed hash

The hash that mixes its input eight bytes at a time, one round for each word and three at
the end, with a key of nought. Two texts get different hashes as a rule; what matters here
is that one text always gets the same one.
-/

namespace ModuleHooks.Hash

/-- The state of the mixing: four words. -/
structure Sip where
  a : UInt64
  b : UInt64
  c : UInt64
  d : UInt64
  deriving DecidableEq, Repr

namespace Sip

/-- A word turned to the left. -/
def turn (x : UInt64) (n : UInt64) : UInt64 := (x <<< n) ||| (x >>> (64 - n))

/-- The state at the start. -/
def start : Sip :=
  ⟨0x736f6d6570736575, 0x646f72616e646f6d, 0x6c7967656e657261, 0x7465646279746573⟩

/-- One round of mixing. -/
def round (s : Sip) : Sip :=
  let a := s.a + s.b
  let b := turn s.b 13 ^^^ a
  let a := turn a 32
  let c := s.c + s.d
  let d := turn s.d 16 ^^^ c
  let a := a + d
  let d := turn d 21 ^^^ a
  let c := c + b
  let b := turn b 17 ^^^ c
  let c := turn c 32
  ⟨a, b, c, d⟩

/-- Takes one word in. -/
def absorb (s : Sip) (w : UInt64) : Sip :=
  let t := round { s with d := s.d ^^^ w }
  { t with a := t.a ^^^ w }

/-- A word of up to eight bytes, the lowest first. -/
def wordOf : List UInt8 → UInt64
  | [] => 0
  | x :: r => x.toUInt64 ||| (wordOf r <<< 8)

/-- Takes bytes in, with the length of all of them in the last word. The second argument
bounds the number of words. -/
def absorbAll (length : Nat) : Nat → Sip → List UInt8 → Sip
  | 0, s, _ => s
  | n + 1, s, bytes =>
    if bytes.length ≥ 8 then absorbAll length n (absorb s (wordOf (bytes.take 8))) (bytes.drop 8)
    else absorb s (wordOf bytes ||| ((length % 256).toUInt64 <<< 56))

/-- What the state comes to. -/
def finish (s : Sip) : UInt64 :=
  let t := round (round (round { s with c := s.c ^^^ 255 }))
  t.a ^^^ t.b ^^^ t.c ^^^ t.d

/-- The hash of bytes. -/
def ofBytes (bytes : List UInt8) : UInt64 :=
  finish (absorbAll bytes.length (bytes.length / 8 + 1) start bytes)

/-- **The hash of a text**: of its bytes and a closing mark. -/
def ofText (t : Text) : UInt64 := ofBytes (Text.utf8 t ++ [255])

end Sip

/-- A digit of the notation by 64 digits: small letters, capital letters, the digits from
one to nine and nought, and two marks. -/
def digit64 (n : Nat) : Char :=
  if n < 26 then Char.ofNat (97 + n)
  else if n < 52 then Char.ofNat (39 + n)
  else if n < 61 then Char.ofNat (n - 3)
  else if n = 61 then '0'
  else if n = 62 then '_'
  else '-'

/-- Four bytes in the notation by 64 digits: six of them. -/
def write64 (a b c d : Nat) : Text :=
  let high := a * 65536 + b * 256 + c
  [high / 262144, high / 4096 % 64, high / 64 % 64, high % 64, d / 4, d % 4 * 16].map digit64

/-- **The short mark of a text**: the lowest 32 bits of its hash, lowest byte first. -/
def mark (t : Text) : Text :=
  let n := (Sip.ofText t).toNat
  write64 (n % 256) (n / 256 % 256) (n / 65536 % 256) (n / 16777216 % 256)

end ModuleHooks.Hash
