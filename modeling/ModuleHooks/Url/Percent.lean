import ModuleHooks.Text.Quoted
import ModuleHooks.Text.Utf8
/-!
# Percent encoding

A part of a URL writes the bytes of certain characters as a percent sign and two
hexadecimal digits. Which characters those are depends on the part; each part has its
own set. Characters outside ASCII and control characters are written so everywhere.

Decoding looks only for well-formed triples and leaves everything else as it is. The bytes
that come of it need not be those of a text. As paths are texts here, replacement characters
stand for what is malformed, both in what is only shown and in the path of a URL. A system
would go on with the bytes and look for a file of that name, which is left out along with all
paths that are no texts.
-/

namespace ModuleHooks.Percent

/-- A set of characters to be encoded, as a test. -/
abbrev EncodeSet := Char → Bool

/-- Control characters and everything outside ASCII, which no part writes verbatim. -/
def controls : EncodeSet := fun c => c.toNat < 32 || c.toNat ≥ 127

/-- A set extended by the characters of a text. -/
def adding (base : EncodeSet) (more : Text) : EncodeSet := fun c => base c || more.elem c

/-- The set of fragments. -/
def fragmentSet : EncodeSet := adding controls (" \"<>".toList ++ [Char.ofNat 96])

/-- The set of path segments. -/
def pathSet : EncodeSet := adding fragmentSet "#?\x7b\x7d"

/-- The set of path segments that come from file names: a percent sign and both
slashes are ordinary characters there. -/
def fileNameSet : EncodeSet := adding pathSet "/%\\"

/-- The set of user names and passwords. -/
def userSet : EncodeSet := adding pathSet "/:;=@[\\]^|"

/-- The set of queries. -/
def querySet : EncodeSet := adding controls " \"#<>"

/-- The set of queries of special schemes. -/
def specialQuerySet : EncodeSet := adding querySet "'"

/-- The triple of a byte. -/
def triple (b : UInt8) : Text :=
  ['%', (Text.hexDigit (b.toNat / 16)).toUpper, (Text.hexDigit (b.toNat % 16)).toUpper]

/-- The encoded form of one character. -/
def encodeChar (set : EncodeSet) (c : Char) : Text :=
  if set c then (Text.utf8Char c).flatMap triple else [c]

/-- **Encodes the characters of a set.** -/
def encode (set : EncodeSet) (t : Text) : Text := t.flatMap (encodeChar set)

/-- The bytes of a text after its triples are decoded. -/
def decodeBytes : Text → List UInt8
  | '%' :: a :: b :: r =>
    match Text.hexValue? a, Text.hexValue? b with
    | some x, some y => (x * 16 + y).toUInt8 :: decodeBytes r
    | _, _ => 37 :: decodeBytes (a :: b :: r)
  | c :: r => Text.utf8Char c ++ decodeBytes r
  | [] => []

/-- **Decodes triples.** Bytes that do not form a character become the replacement
character. -/
def decode (t : Text) : Text := Text.decodeLossy (decodeBytes t)

end ModuleHooks.Percent
