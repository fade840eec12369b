import ModuleHooks.Text.Basic
/-!
# UTF-8

Texts as bytes and back. Decoding comes in two forms: a strict one that refuses
malformed input, for the contents of files, and a lossy one that puts a replacement
character in place of every maximal malformed piece, for names that are only shown.
-/

namespace ModuleHooks.Text

/-- The bytes of one code point. -/
def utf8Char (c : Char) : List UInt8 :=
  let n := c.toNat
  if n < 0x80 then [n.toUInt8]
  else if n < 0x800 then [(0xC0 + n / 64).toUInt8, (0x80 + n % 64).toUInt8]
  else if n < 0x10000 then
    [(0xE0 + n / 4096).toUInt8, (0x80 + n / 64 % 64).toUInt8, (0x80 + n % 64).toUInt8]
  else
    [(0xF0 + n / 262144).toUInt8, (0x80 + n / 4096 % 64).toUInt8,
      (0x80 + n / 64 % 64).toUInt8, (0x80 + n % 64).toUInt8]

/-- **The UTF-8 encoding of a text.** -/
def utf8 (t : Text) : List UInt8 := t.flatMap utf8Char

/-- The number of bytes of the encoding. -/
def utf8Length (t : Text) : Nat := t.foldl (fun n c => n + (utf8Char c).length) 0

/-- What a leading byte announces: how many continuation bytes follow, the bits it
contributes, and the range of its first continuation byte. -/
def lead? (b : UInt8) : Option (Nat × Nat × UInt8 × UInt8) :=
  if b < 0x80 then some (0, b.toNat, 0, 0)
  else if b < 0xC2 then none
  else if b < 0xE0 then some (1, b.toNat - 0xC0, 0x80, 0xBF)
  else if b = 0xE0 then some (2, 0, 0xA0, 0xBF)
  else if b = 0xED then some (2, 13, 0x80, 0x9F)
  else if b < 0xF0 then some (2, b.toNat - 0xE0, 0x80, 0xBF)
  else if b = 0xF0 then some (3, 0, 0x90, 0xBF)
  else if b < 0xF4 then some (3, b.toNat - 0xF0, 0x80, 0xBF)
  else if b = 0xF4 then some (3, 4, 0x80, 0x8F)
  else none

/-- Reads up to `n` continuation bytes, the first of them in the given range. The
result is the number of bytes taken and, when there were enough, the code point. -/
def continue? : Nat → Nat → UInt8 → UInt8 → List UInt8 → Nat × Option Nat
  | 0, acc, _, _, _ => (0, some acc)
  | _ + 1, _, _, _, [] => (0, none)
  | n + 1, acc, lo, hi, b :: r =>
    if lo ≤ b && b ≤ hi then
      let (k, v) := continue? n (acc * 64 + (b.toNat - 0x80)) 0x80 0xBF r
      (k + 1, v)
    else (0, none)

/-- **Lossy decoding.** The counter `skip` says how many bytes were already read. -/
def decodeLossyFrom : Nat → List UInt8 → Text
  | _, [] => []
  | skip + 1, _ :: r => decodeLossyFrom skip r
  | 0, b :: r =>
    match lead? b with
    | none => '\uFFFD' :: decodeLossyFrom 0 r
    | some (n, bits, lo, hi) =>
      let (k, v) := continue? n bits lo hi r
      match v with
      | some cp => Char.ofNat cp :: decodeLossyFrom k r
      | none => '\uFFFD' :: decodeLossyFrom k r

/-- The text of a byte sequence, with a replacement character for each malformed
piece. -/
def decodeLossy (bytes : List UInt8) : Text := decodeLossyFrom 0 bytes

/-- **Strict decoding**, which refuses malformed input. -/
def decodeStrictFrom : Nat → List UInt8 → Option Text
  | _, [] => some []
  | skip + 1, _ :: r => decodeStrictFrom skip r
  | 0, b :: r =>
    match lead? b with
    | none => none
    | some (n, bits, lo, hi) =>
      match continue? n bits lo hi r with
      | (k, some cp) => (decodeStrictFrom k r).map (Char.ofNat cp :: ·)
      | (_, none) => none

/-- The text of a byte sequence, when it is well-formed UTF-8. -/
def decodeUtf8? (bytes : List UInt8) : Option Text := decodeStrictFrom 0 bytes

end ModuleHooks.Text
