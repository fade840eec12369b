import ModuleHooks.Binary.Basic
import ModuleHooks.Text.Quoted
/-!
# JSON

Values of the data format and a reader for whole documents. Numbers keep the text they
are written with; an object keeps its members in the order they are written in,
repeated names included, so that each use can decide what repetition means.

A document is read for some of its members. The values that are looked at are read with
care: they are nested less than a hundred and twenty-eight levels deep, their numbers
stay in range and their literals stand for texts. All other values are skimmed, for
which it is enough that they follow the grammar.
-/

namespace ModuleHooks

/-- **A JSON value.** -/
inductive Json where
  | null
  | bool (b : Bool)
  | number (written : Text)
  | string (t : Text)
  | array (items : List Json)
  | object (members : List (Text × Json))
  deriving Repr

namespace Json

/-- Whether a character is blank in JSON. -/
def isBlank (c : Char) : Bool := c == ' ' || c == '\t' || c == '\n' || c == '\r'

/-- The text without blanks at the front. -/
def skipBlanks (t : Text) : Text := t.dropWhile isBlank

/-- Digits at the front and what follows, when there is at least one. -/
def digits? (t : Text) : Option (Text × Text) :=
  match t.takeWhile Char.isDigit with
  | [] => none
  | ds => some (ds, t.dropWhile Char.isDigit)

/-- The whole part of a number: zero or digits that do not begin with zero. -/
def whole? : Text → Option (Text × Text)
  | '0' :: r => some (['0'], r)
  | t => digits? t

/-- The fraction of a number, which may be missing. -/
def fraction? : Text → Option (Text × Text)
  | '.' :: r => (digits? r).map fun x => ('.' :: x.1, x.2)
  | t => some ([], t)

/-- The exponent of a number, which may be missing. -/
def exponent? : Text → Option (Text × Text)
  | c :: r =>
    if c = 'e' || c = 'E' then
      match r with
      | '+' :: s => (digits? s).map fun x => (c :: '+' :: x.1, x.2)
      | '-' :: s => (digits? s).map fun x => (c :: '-' :: x.1, x.2)
      | _ => (digits? r).map fun x => (c :: x.1, x.2)
    else some ([], c :: r)
  | [] => some ([], [])

/-- Takes digits up into a number as long as it stays below the 64th power of two. -/
def gathered (n : Nat) : Text → Nat × Text
  | [] => (n, [])
  | d :: r =>
    let m := n * 10 + (Text.hexValue? d).getD 0
    if m < 18446744073709551616 then gathered m r else (n, d :: r)

/-- The exponent that the text of an exponent writes. -/
def exponentValue (t : Text) : Int :=
  let digits (t : Text) : Nat := t.foldl (fun n c => n * 10 + (Text.hexValue? c).getD 0) 0
  match t.drop 1 with
  | '-' :: r => -(digits r : Int)
  | '+' :: r => digits r
  | r => digits r

/-- **Whether a number is in range**, given by its whole part, its fraction with the
point and its exponent. Digits that no longer fit into the significand count as a power
of ten before the point and as nothing after it; the rounded significand times that
power has to be finite. -/
def isInRange (whole fraction exponent : Text) : Bool :=
  let (n, surplus) := gathered 0 whole
  let digits := fraction.drop 1
  let (n, ignored) := gathered n digits
  let power := (surplus.length : Int) - (digits.length - ignored.length : Nat) +
    exponentValue exponent
  n == 0 || power ≤ 0 ||
    power ≤ 308 &&
      (Binary.mul .double (.ofRatio .double false n 1)
        (.ofRatio .double false (Nat.pow 10 power.toNat) 1)).isFinite

/-- Reads a number; with care, one that is in range. -/
def number? (careful : Bool) (t : Text) : Option (Json × Text) := do
  let (sign, r) := match t with
    | '-' :: r => (['-'], r)
    | t => ([], t)
  let (a, r) ← whole? r
  let (b, r) ← fraction? r
  let (c, r) ← exponent? r
  if careful && !isInRange a b c then none
  return (.number (sign ++ a ++ b ++ c), r)

/-- What follows the body of a literal that is skimmed. An escape may name half of a
pair. -/
def afterLiteral? : Text → Option Text
  | [] => none
  | '"' :: r => some r
  | '\\' :: 'u' :: a :: b :: c :: d :: r =>
    if (Text.hex4? a b c d).isSome then afterLiteral? r else none
  | '\\' :: c :: r => if (Text.unescape? c).isSome then afterLiteral? r else none
  | c :: r => if c.toNat < 32 then none else afterLiteral? r

/-- Reads a literal. The text of one that is skimmed is left out. -/
def literal? (careful : Bool) : Text → Option (Text × Text)
  | '"' :: r =>
    if careful then Text.unquote? ('"' :: r) else (afterLiteral? r).map fun x => ([], x)
  | _ => none

/-- What can be read at each depth. -/
abbrev Reader := Text → Option (Json × Text)

/-- Reads the items of an array from the first on, up to the closing bracket. The bound
is on their number. -/
def items? (value : Reader) : Nat → Text → Option (List Json × Text)
  | 0, _ => none
  | n + 1, t => do
    let (v, r) ← value t
    match skipBlanks r with
    | ',' :: r => (items? value n r).map fun x => (v :: x.1, x.2)
    | ']' :: r => some ([v], r)
    | _ => none

/-- Reads the members of an object from the first on, up to the closing brace, each value
as its name demands. The bound is on their number. -/
def members? (careful : Bool) (value : Text → Reader) :
    Nat → Text → Option (List (Text × Json) × Text)
  | 0, _ => none
  | n + 1, t => do
    let (key, r) ← literal? careful (skipBlanks t)
    match skipBlanks r with
    | ':' :: r =>
      let (v, r) ← value key r
      match skipBlanks r with
      | ',' :: r => (members? careful value n r).map fun x => ((key, v) :: x.1, x.2)
      | '\x7d' :: r => some ([(key, v)], r)
      | _ => none
    | _ => none

/-- Reads a value that is neither an array nor an object. -/
def simple? (careful : Bool) : Reader
  | 'n' :: 'u' :: 'l' :: 'l' :: r => some (.null, r)
  | 't' :: 'r' :: 'u' :: 'e' :: r => some (.bool true, r)
  | 'f' :: 'a' :: 'l' :: 's' :: 'e' :: r => some (.bool false, r)
  | '"' :: r => (literal? careful ('"' :: r)).map fun x => (.string x.1, x.2)
  | t => number? careful t

/-- Reads an array or an object of which the items and members are read in the given
ways, or a simple value. -/
def nested? (careful : Bool) (item : Reader) (member : Text → Reader) : Reader := fun t =>
  match skipBlanks t with
  | '\x7b' :: r =>
    match skipBlanks r with
    | '\x7d' :: r => some (.object [], r)
    | r => (members? careful member r.length r).map fun x => (.object x.1, x.2)
  | '[' :: r =>
    match skipBlanks r with
    | ']' :: r => some (.array [], r)
    | r => (items? item r.length r).map fun x => (.array x.1, x.2)
  | t => simple? careful t

/-- Reads a value with at most the given number of levels. -/
def value? (careful : Bool) : Nat → Reader
  | 0 => fun t => simple? careful (skipBlanks t)
  | n + 1 => nested? careful (value? careful n) fun _ => value? careful n

/-- How many levels a document has at most where it is read with care. -/
def levels : Nat := 127

/-- **Reads a document**: one value and nothing but blanks around it. Of an object, only
the members with wanted names are looked at. -/
def parse? (wanted : List Text) (t : Text) : Option Json :=
  let careful := value? true (levels - 1)
  let skimmed := value? false t.length
  match nested? true careful (fun name => if List.elem name wanted then careful else skimmed) t with
  | some (v, r) => if skipBlanks r = [] then some v else none
  | none => none

end Json

end ModuleHooks
