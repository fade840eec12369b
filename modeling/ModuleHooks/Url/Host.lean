import ModuleHooks.Url.Domain
import ModuleHooks.Url.Percent
/-!
# Hosts

The host of a URL is a domain, an address of either version of the internet protocol,
or, under schemes that are not special, any text.
-/

namespace ModuleHooks

/-- **Why a URL is refused.** -/
inductive UrlError where
  | emptyHost
  | malformedDomain
  | invalidPort
  | invalidIpv4
  | invalidIpv6
  | invalidDomainCharacter
  | relativeWithoutBase
  | relativeWithOpaqueBase
  deriving DecidableEq, Repr

/-- The wording of a refusal. -/
def UrlError.message : UrlError → Text
  | .emptyHost => "empty host"
  | .malformedDomain => "invalid international domain name"
  | .invalidPort => "invalid port number"
  | .invalidIpv4 => "invalid IPv4 address"
  | .invalidIpv6 => "invalid IPv6 address"
  | .invalidDomainCharacter => "invalid domain character"
  | .relativeWithoutBase => "relative URL without a base"
  | .relativeWithOpaqueBase => "relative URL with a cannot-be-a-base base"

/-- **A host.** -/
inductive Host where
  /-- A name, possibly empty. -/
  | domain (name : Text)
  /-- An address of four bytes. -/
  | ipv4 (address : Nat)
  /-- An address of eight 16-bit pieces. -/
  | ipv6 (pieces : List Nat)
  deriving DecidableEq, Repr

namespace Host

/-! ## Writing -/

/-- The dotted form of a four-byte address. -/
def dotted (n : Nat) : Text :=
  Text.join "." ([n / 16777216, n / 65536 % 256, n / 256 % 256, n % 256].map Text.ofNat)

/-- The number of zeros at the front. -/
def zeroRun (pieces : List Nat) : Nat := (pieces.takeWhile (· == 0)).length

/-- The place and the length of the first longest run of zeros, from position `i`. -/
def longestZeros : Nat → List Nat → Nat × Nat
  | _, [] => (0, 0)
  | i, p :: r =>
    let (place, len) := longestZeros (i + 1) r
    let here := zeroRun (p :: r)
    if here ≥ len && here > 0 then (i, here) else (place, len)

/-- The hexadecimal digits of a piece. -/
def hex (n : Nat) : Text := Nat.toDigits 16 n

/-- The text of an address of eight pieces; the first longest run of two or more zeros
is left out. -/
def compressed (pieces : List Nat) : Text :=
  let (place, len) := longestZeros 0 pieces
  let colons (l : List Nat) : Text := Text.join ":" (l.map hex)
  if len ≥ 2 then colons (pieces.take place) ++ "::".toList ++ colons (pieces.drop (place + len))
  else colons pieces

/-- **The text of a host.** -/
def render : Host → Text
  | .domain name => name
  | .ipv4 n => dotted n
  | .ipv6 pieces => '[' :: compressed pieces ++ [']']

/-! ## Reading addresses -/

/-- The value of a list of digits to a base; `none` if one is no digit. -/
def number? (base : Nat) (t : Text) : Option Nat :=
  t.foldlM (fun n c => do
    let d ← Text.hexValue? c
    if d < base then some (n * base + d) else none) 0

/-- A number of an IPv4 address, in any of the three bases. -/
def ipv4Number? (t : Text) : Option Nat :=
  match t with
  | [] => none
  | '0' :: 'x' :: r => number? 16 r
  | '0' :: 'X' :: r => number? 16 r
  | '0' :: r => if r = [] then some 0 else number? 8 r
  | _ => number? 10 t

/-- The parts of an address, without an empty one at the end. -/
def ipv4Parts (name : Text) : List Text :=
  let parts := Text.splitOn '.' name
  if parts.getLast? == some [] && parts.length > 1 then parts.dropLast else parts

/-- Whether a domain is to be read as an IPv4 address: its last part is a number. -/
def endsInNumber (name : Text) : Bool :=
  match (ipv4Parts name).getLast? with
  | none => false
  | some last => last != [] && (last.all Char.isDigit || (ipv4Number? last).isSome)

/-- Reads an IPv4 address. All numbers but the last are bytes, the last fills the
rest. -/
def parseIpv4 (name : Text) : Except UrlError Host :=
  match (ipv4Parts name).mapM ipv4Number? with
  | none => .error .invalidIpv4
  | some numbers =>
    match numbers.reverse with
    | [] => .error .invalidIpv4
    | last :: firsts =>
      if numbers.length > 4 || firsts.any (· > 255) || last ≥ Nat.pow 256 (5 - numbers.length) then
        .error .invalidIpv4
      else
        .ok (.ipv4 ((firsts.reverse.foldl (fun n b => n * 256 + b) 0) *
          Nat.pow 256 (5 - numbers.length) + last))

/-- One piece of an IPv6 address: one to four hexadecimal digits. -/
def piece? (t : Text) : Option Nat :=
  if t = [] || t.length > 4 then none else number? 16 t

/-- One decimal byte of a dotted end, without a leading zero. -/
def byte? (t : Text) : Option Nat :=
  match t with
  | [] => none
  | '0' :: _ :: _ => none
  | _ => (number? 10 t).bind fun n => if n < 256 then some n else none

/-- The pieces written between colons; the last may be a dotted address. -/
def pieces? (t : Text) (dottedEnd : Bool) : Option (List Nat) :=
  if t = [] then some []
  else
    let parts := Text.splitOn ':' t
    match parts.getLast? with
    | none => none
    | some last =>
      if dottedEnd && List.elem '.' last then do
        let front ← parts.dropLast.mapM piece?
        match ← (Text.splitOn '.' last).mapM byte? with
        | [a, b, c, d] => some (front ++ [a * 256 + b, c * 256 + d])
        | _ => none
      else parts.mapM piece?

/-- Reads an IPv6 address. -/
def parseIpv6 (t : Text) : Except UrlError Host :=
  let answer : Option (List Nat) :=
    match Text.splitFirst? "::" t with
    | none => (pieces? t true).bind fun l => if l.length = 8 then some l else none
    | some (before, after) => do
      let front ← pieces? before false
      let back ← pieces? after true
      if front.length + back.length ≤ 7 then
        some (front ++ List.replicate (8 - front.length - back.length) 0 ++ back)
      else none
  match answer with
  | some pieces => .ok (.ipv6 pieces)
  | none => .error .invalidIpv6

/-! ## Reading hosts -/

/-- Reads an address between brackets. -/
def parseBracketed (rest : Text) : Except UrlError Host :=
  match rest.reverse with
  | ']' :: inner => parseIpv6 inner.reverse
  | _ => .error .invalidIpv6

/-- **Reads the host of a special URL.** -/
def parse (t : Text) : Except UrlError Host :=
  match t with
  | '[' :: rest => parseBracketed rest
  | _ =>
    match Domain.toAscii? (Percent.decode t) with
    | none => .error .malformedDomain
    | some [] => .error .emptyHost
    | some name => if endsInNumber name then parseIpv4 name else .ok (.domain name)

/-- **Reads the host of a URL that is not special.** -/
def parseOpaque (t : Text) : Except UrlError Host :=
  match t with
  | '[' :: rest => parseBracketed rest
  | _ =>
    if t.any fun c => ("\x00\t\n\r #/:<>?@[\\]^|" : Text).elem c then
      .error .invalidDomainCharacter
    else .ok (.domain (Percent.encode Percent.controls t))

end Host

end ModuleHooks
