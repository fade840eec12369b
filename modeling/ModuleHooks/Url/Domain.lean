import ModuleHooks.Text.Composed
import ModuleHooks.Url.DomainTable
import ModuleHooks.Url.Punycode
/-!
# Domain names

The form in which a domain name enters a URL: ASCII letters in lower case, and every
label with other characters encoded.

Before that, characters are mapped to those that domain names consist of, and what is
left is checked label by label. A label that comes encoded is decoded for the checks; it
must be what encoding the mapped label gives. The rule for text from right to left
concerns a name as a whole: once one label has such characters, all labels must read
unambiguously.

A name of ASCII characters without encoded labels needs none of this.
-/

namespace ModuleHooks.Domain

open CodePoints

/-! ## Characters -/

/-- **What becomes of the characters of a run.** -/
inductive Change where
  /-- They stay. -/
  | kept
  /-- All have the same image. -/
  | common (image : Text)
  /-- Their images are consecutive characters. -/
  | shifted (first : Nat)
  /-- Every other one, the first among them, becomes its neighbour. -/
  | neighbour

/-- The gap and the run that a word describes. -/
def Change.ofWord (word : Text) : List (Nat × Change) :=
  let isHex (c : Char) := (Text.hexValue? c).isSome
  let gap := (Text.hexNumber (word.takeWhile isHex), Change.kept)
  let (count, image) := halves '=' (word.dropWhile isHex)
  let points := if image = [] then [] else
    (Text.splitOn '+' image).map fun p => Char.ofNat (Text.hexNumber p)
  match count with
  | '#' :: n => [gap, (Text.hexNumber n, .common points)]
  | '*' :: n => [gap, (Text.hexNumber n, .shifted (Text.hexNumber image))]
  | '/' :: n => [gap, (2 * Text.hexNumber n - 1, .neighbour)]
  | _ => [gap, (1, .common points)]

/-- The changes of characters. -/
def changes : CodePoints.Table Change :=
  (ofLengths 0 ((words Table.mappingWords).flatMap Change.ofWord ++ [(0, .kept)])).toArray

/-- **The image of a character in a domain name**, which is empty for those that are
ignored. -/
def mapChar (c : Char) : Text :=
  if c.toNat < 128 then [c.toLower]
  else
    match run? changes c.toNat with
    | some (_, .common image) => image
    | some (start, .shifted first) => [Char.ofNat (first + (c.toNat - start))]
    | some (start, .neighbour) =>
      if (c.toNat - start) % 2 = 0 then [Char.ofNat (c.toNat + 1)] else [c]
    | _ => [c]

/-- The characters outside ASCII that no domain name contains. -/
def refused : CodePoints.Table Bool := ofSetWords Table.refusedWords

/-- The marks. -/
def marks : CodePoints.Table Bool := ofSetWords Table.markWords

/-- The ASCII characters that no domain name contains. -/
def isForbidden (c : Char) : Bool :=
  c.toNat ≤ 32 || c.toNat == 127 || ("#/:<>?@[\\]^|%" : Text).elem c

/-- Whether a character is an ASCII character. -/
def isAscii (c : Char) : Bool := c.toNat < 128

/-- **The characters of a name after mapping**, unless the name contains a character
that no name does. -/
def mapped? (t : Text) : Option Text :=
  if t.any fun c => !isAscii c && holds refused c then none
  else
    let name := Text.composed (t.flatMap mapChar)
    if name.any isForbidden then none else some name

/-! ## Joiners -/

/-- **How a letter joins with its neighbours.** -/
inductive Joining where
  | left
  | right
  | both
  | transparent
  | neither
  deriving DecidableEq

/-- The joining that a name in the table stands for. -/
def Joining.ofName : Text → Joining
  | ['L'] => .left
  | ['R'] => .right
  | ['D'] => .both
  | ['T'] => .transparent
  | _ => .neither

/-- The joining of characters. -/
def joinings : CodePoints.Table Joining := ofClassWords Joining.ofName Table.joiningWords

/-- The joining of a character. -/
def joining (c : Char) : Joining := (value? joinings c).getD .neither

/-- The joining of the first character that is not transparent. -/
def nextJoining (t : Text) : Joining :=
  match t.dropWhile (joining · == .transparent) with
  | [] => .neither
  | c :: _ => joining c

/-- Whether each joiner of a label has a reason: it follows a character that suppresses a
vowel, or it separates two letters that would join. `before` holds the characters to
the left, nearest first. -/
def joinersAllowed (before : Text) : Text → Bool
  | [] => true
  | c :: r =>
    (if c = '\u200C' || c = '\u200D' then
      (match before with
        | [] => false
        | d :: _ =>
          Text.combiningClass d == 9 ||
            c == '\u200C' && (nextJoining before == .left || nextJoining before == .both) &&
              (nextJoining r == .right || nextJoining r == .both))
    else true) && joinersAllowed (c :: before) r

/-! ## Direction -/

/-- **The classes of characters by the direction of writing.** -/
inductive Direction where
  | leftToRight
  | rightToLeft
  | arabicLetter
  | arabicNumber
  | europeanNumber
  | numberSign
  | numberUnit
  | numberStop
  | neutral
  | boundary
  | mark
  | other
  deriving DecidableEq

/-- The class that a name in the table stands for. -/
def Direction.ofName : Text → Direction
  | ['L'] => .leftToRight
  | ['R'] => .rightToLeft
  | ['A', 'L'] => .arabicLetter
  | ['A', 'N'] => .arabicNumber
  | ['E', 'N'] => .europeanNumber
  | ['E', 'S'] => .numberSign
  | ['E', 'T'] => .numberUnit
  | ['C', 'S'] => .numberStop
  | ['O', 'N'] => .neutral
  | ['B', 'N'] => .boundary
  | ['N', 'S', 'M'] => .mark
  | _ => .other

/-- The classes of characters. -/
def directions : CodePoints.Table Direction := ofClassWords Direction.ofName Table.directionWords

/-- The class of a character. -/
def direction (c : Char) : Direction := (value? directions c).getD .other

/-- The classes that occur in texts of both directions. -/
def weakDirections : List Direction :=
  [.europeanNumber, .numberSign, .numberUnit, .numberStop, .neutral, .boundary, .mark]

/-- Whether a character makes a name one that is read from right to left. -/
def isFromRight (c : Char) : Bool :=
  List.elem (direction c) [.rightToLeft, .arabicLetter, .arabicNumber]

/-- **Whether a label reads unambiguously** beside text from right to left: its first
character fixes the direction, all others go along with it, and the last one, marks
aside, ends the text. -/
def readsOneWay (label : Text) : Bool :=
  match label.map direction with
  | [] => true
  | first :: rest =>
    let all := first :: rest
    match all.reverse.dropWhile (· == .mark) with
    | [] => false
    | last :: _ =>
      match first with
      | .leftToRight =>
        all.all (fun d => d == .leftToRight || List.elem d weakDirections) &&
          List.elem last [.leftToRight, .europeanNumber]
      | .rightToLeft | .arabicLetter =>
        all.all (fun d =>
            List.elem d [.rightToLeft, .arabicLetter, .arabicNumber] ||
              List.elem d weakDirections) &&
          List.elem last [.rightToLeft, .arabicLetter, .europeanNumber, .arabicNumber] &&
          !(List.elem .europeanNumber all && List.elem .arabicNumber all)
      | _ => false

/-! ## Labels -/

/-- What an encoded label begins with. -/
def encodedMark : Text := "xn--"

/-- **A label in both forms**: as it is read and as it enters a URL. -/
structure Label where
  readable : Text
  ascii : Text

/-- Encodes a label of mapped characters. A label of more than a thousand characters is
not encoded. -/
def Label.encoded? (t : Text) : Option Label :=
  if t.all isAscii then some ⟨t, t⟩
  else if t.length > 1000 then none
  else some ⟨t, encodedMark ++ Punycode.encode t⟩

/-- Decodes a label that comes encoded: it must be the encoded form of a label that
mapping leaves as it is and that needs the encoding. -/
def Label.decoded? (t : Text) : Option Label := do
  let digits ← Text.stripStart? encodedMark t
  if !digits.all isAscii || digits.length > 2000 || digits.getLast? == some '-' then none
  let label ← Punycode.decode? digits
  if label.all isAscii || mapped? label != some label then none
  return ⟨label, t⟩

/-- Both forms of a label of mapped characters. -/
def Label.ofMapped? (t : Text) : Option Label :=
  if Text.startsWith t encodedMark then Label.decoded? t else Label.encoded? t

/-- Whether a label begins with a letter, not with a mark, and its joiners have a
reason. -/
def Label.isWellFormed (label : Label) : Bool :=
  label.readable.all isAscii ||
    !label.readable.head?.any (holds marks) && joinersAllowed [] label.readable

/-- Whether a name needs neither mapping nor checks beyond those of ASCII characters. -/
def isPlain (t : Text) : Bool :=
  t.all isAscii &&
    !(Text.splitOn '.' (Text.lowerAscii t)).any fun l => Text.startsWith l encodedMark

/-- **The form of a domain name in a URL**; `none` if the name is malformed. -/
def toAscii? (t : Text) : Option Text :=
  if isPlain t then
    if t.any isForbidden then none else some (Text.lowerAscii t)
  else do
    let name ← mapped? t
    let labels ← (Text.splitOn '.' name).mapM Label.ofMapped?
    if !labels.all Label.isWellFormed then none
    if labels.any (·.readable.any isFromRight) && !labels.all (readsOneWay ·.readable) then none
    return Text.join "." (labels.map (·.ascii))

end ModuleHooks.Domain
