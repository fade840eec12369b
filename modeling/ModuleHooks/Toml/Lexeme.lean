import ModuleHooks.Text.Quoted
import ModuleHooks.Toml.Basic
import ModuleHooks.Toml.Reader
/-!
# Lexemes of documents

Blanks, comments, strings, keys, numbers and dates. Each reader stands for one rule of
the format's grammar, and commits as soon as nothing else can follow.
-/

namespace ModuleHooks.Toml

open Reader

/-- A character between backquotes, as it is named in messages. -/
def ticked (c : Char) : Text := [Char.ofNat 96, c, Char.ofNat 96]

/-! ## Blanks and comments -/

/-- Whether a character is a blank within a line. -/
def isSpace (c : Char) : Bool := c == ' ' || c == '\t'

/-- Whether a character can stand in a comment. -/
def isCommentChar (c : Char) : Bool := c == '\t' || (c.toNat ≥ 0x20 && c.toNat ≠ 0x7F)

/-- Blanks within a line. -/
def spaces : Reader Text := takeAll isSpace

/-- A line end. -/
def lineEnd : Reader Unit :=
  alternatively (thenRead (char '\n') (give ())) (thenRead (literal "\r\n") (give ()))

/-- A comment. -/
def comment : Reader Unit := thenRead (char '#') (thenRead (takeAll isCommentChar) (give ()))

/-- The end of a line or of the document. -/
def lineOrDocumentEnd : Reader Unit := alternatively lineEnd atEnd

/-- What may follow a value or a header on its line. -/
def lineTail : Reader Unit :=
  expecting ["newline".toList, ticked '#']
    (thenRead spaces (thenRead (perhaps comment) lineOrDocumentEnd))

/-- Blanks, line ends and comments. -/
def blanksAndComments : Reader Unit :=
  map (fun _ => ())
    (many (alternatively (map (fun _ => ()) (takeSome isSpace)) (alternatively lineEnd comment)))

/-! ## Strings -/

/-- Whether a character can stand unescaped between double quotes. -/
def isBasicChar (c : Char) : Bool :=
  c == '\t' || (c.toNat ≥ 0x20 && c.toNat ≠ 0x7F && c != '"' && c != '\\')

/-- Whether a character can stand between single quotes. -/
def isLiteralChar (c : Char) : Bool :=
  c == '\t' || (c.toNat ≥ 0x20 && c.toNat ≠ 0x7F && c != '\'')

/-- Whether a character is a hexadecimal digit. -/
def isHexDigit (c : Char) : Bool := (Text.hexValue? c).isSome

/-- The character of a code point, if there is one. -/
def scalarValue (n : Nat) : Except Text Char :=
  if n < 0xD800 || (0xE000 ≤ n && n < 0x110000) then .ok (Char.ofNat n)
  else .error "value is out of range"

/-- A code point of so many digits. -/
def hexEscape (digits : Nat) (label : Text) : Reader Char :=
  committed (labelled label
    (checked (fun t => scalarValue (Text.hexNumber t)) (takeExactly digits isHexDigit)))

/-- What follows the backslash of an escape. -/
def escapeTail : Reader Char :=
  andThen (oneThat fun _ => true) fun c =>
    if c = 'b' then give (Char.ofNat 8)
    else if c = 'f' then give (Char.ofNat 12)
    else if c = 'n' then give '\n'
    else if c = 'r' then give '\r'
    else if c = 't' then give '\t'
    else if c = '\\' then give '\\'
    else if c = '"' then give '"'
    else if c = 'u' then hexEscape 4 "unicode 4-digit hex code"
    else if c = 'U' then hexEscape 8 "unicode 8-digit hex code"
    else
      expecting (("bfnrtuU\\\"" : Text).map ticked)
        (labelled "escape sequence" (committed fail))

/-- An escape. -/
def escape : Reader Text := map (fun c => [c]) (thenRead (char '\\') escapeTail)

/-- A piece of a string between double quotes. -/
def basicPiece : Reader Text := alternatively (takeSome isBasicChar) escape

/-- A string between double quotes. -/
def basicString : Reader Text :=
  andThen (char '"') fun _ =>
    andThen (many basicPiece) fun l =>
      andThen (labelled "basic string" (committed (char '"'))) fun _ => give l.flatten

/-- A line end as it enters a string. -/
def lineEndText : Reader Text := map (fun _ => ['\n']) lineEnd

/-- A backslash at the end of a line, with all blanks and line ends after it. -/
def escapedLineEnd : Reader Text :=
  map (fun _ => [])
    (thenRead (char '\\') (thenRead spaces (thenRead lineEnd
      (many (alternatively (map (fun _ => ()) (takeSome isSpace)) lineEnd)))))

/-- A piece of a string between three double quotes, other than quotes. -/
def longBasicPiece : Reader Text :=
  alternatively (takeSome isBasicChar)
    (alternatively escapedLineEnd (alternatively escape lineEndText))

/-- One or two quotes that are followed by what satisfies a reader. -/
def innerQuotes {α : Type} (quote : Char) (follow : Reader α) : Reader Text :=
  let followed : Reader Unit := fun i =>
    match follow i with
    | .ok _ _ => .ok () i
    | .failed final why place => .failed final why place
  alternatively (before (literal [quote, quote]) followed) (before (literal [quote]) followed)

/-- The inside of a string between three quotes, whose other pieces are read by
`piece`. -/
def longBody (quote : Char) (piece : Reader Text) : Reader Text :=
  andThen (many piece) fun front =>
    andThen (many (andThen (innerQuotes quote piece) fun q =>
      andThen (many piece) fun l => give (q ++ l.flatten))) fun middle =>
        andThen (perhaps (innerQuotes quote (literal [quote, quote, quote]))) fun last =>
          give (front.flatten ++ middle.flatten ++ last.getD [])

/-- A string between three quotes. -/
def longString (quote : Char) (piece : Reader Text) (label : Text) : Reader Text :=
  labelled label
    (andThen (literal [quote, quote, quote]) fun _ =>
      andThen (perhaps lineEnd) fun _ =>
        andThen (committed (longBody quote piece)) fun t =>
          andThen (committed (literal [quote, quote, quote])) fun _ => give t)

/-- A piece of a string between three single quotes, other than quotes. -/
def longLiteralPiece : Reader Text :=
  alternatively (map (fun c => [c]) (oneThat isLiteralChar)) lineEndText

/-- A string between single quotes. -/
def literalString : Reader Text :=
  labelled "literal string"
    (andThen (char '\'') fun _ =>
      andThen (takeAll isLiteralChar) fun t =>
        andThen (committed (char '\'')) fun _ => give t)

/-- **A string.** -/
def string : Reader Text :=
  alternatively (longString '"' longBasicPiece "multiline basic string")
    (alternatively basicString
      (alternatively (longString '\'' longLiteralPiece "multiline literal string")
        literalString))

/-! ## Keys -/

/-- Whether a character can stand in a bare key. -/
def isKeyChar (c : Char) : Bool := c.isAlphanum || c == '-' || c == '_'

/-- A key without dots. -/
def simpleKey : Reader Key := fun i =>
  let name :=
    choose (fun c =>
      if c = '"' then basicString else if c = '\'' then literalString else takeSome isKeyChar) i
  match name with
  | .ok name next =>
    .ok ⟨name, i.rest.take (next.position - i.position), ⟨i.position, next.position⟩⟩ next
  | .failed final why place => .failed final why place

/-- **A key**: simple keys with dots between. -/
def key : Reader (List Key) :=
  labelled "key"
    (checked
      (fun l => if l.length < 80 then .ok l else .error "recursion limit exceeded")
      (separated (thenRead spaces (before simpleKey spaces)) (char '.')))

/-! ## Numbers -/

/-- A digit that must follow an underscore. -/
def digitAfterUnderscore (test : Char → Bool) : Reader Unit :=
  thenRead (char '_') (expecting ["digit".toList] (committed (map (fun _ => ()) (oneThat test))))

/-- More digits, with underscores between. -/
def moreDigits (test : Char → Bool) : Reader Unit :=
  map (fun _ => ())
    (many (alternatively (map (fun _ => ()) (oneThat test)) (digitAfterUnderscore test)))

/-- Digits, with underscores between. -/
def digits (test : Char → Bool) : Reader Unit := thenRead (oneThat test) (moreDigits test)

/-- A sign. -/
def isSign (c : Char) : Bool := c == '+' || c == '-'

/-- A whole number in decimal digits, without zeros in front. -/
def decimalInteger : Reader Text :=
  labelled "integer"
    (taken
      (thenRead (perhaps (oneThat isSign))
        (alternatively (thenRead (oneThat fun c => c.isDigit && c != '0') (moreDigits Char.isDigit))
          (map (fun _ => ()) (oneThat Char.isDigit)))))

/-- The text without underscores. -/
def plain (t : Text) : Text := t.filter (· != '_')

/-- A whole number of 64 bits. -/
def inRange (n : Int) : Except Text Int :=
  if n > 9223372036854775807 then .error "number too large to fit in target type"
  else if n < -9223372036854775808 then .error "number too small to fit in target type"
  else .ok n

/-- A whole number of a base with its mark in front. -/
def markedInteger (mark : Text) (base : Nat) (label : Text) : Reader Int :=
  let test (c : Char) : Bool :=
    match Text.hexValue? c with
    | some d => d < base
    | none => false
  let value (t : Text) : Int :=
    ((plain t).foldl (fun n c => n * base + (Text.hexValue? c).getD 0) (0 : Nat) : Nat)
  committed (checked (fun t => inRange (value t))
    (labelled label (thenRead (literal mark) (taken (digits test)))))

/-- The sign of a text and what follows it. -/
def splitSign : Text → Bool × Text
  | '-' :: r => (true, r)
  | '+' :: r => (false, r)
  | t => (false, t)

/-- The value of decimal digits with a sign. -/
def signedValue (t : Text) : Int :=
  let (negative, ds) := splitSign (plain t)
  let n : Int := Binary.digitsValue ds
  if negative then -n else n

/-- A check whose refusal is final but stands where the text began. -/
def settled {α β : Type} (f : α → Except (Option Text) β) (p : Reader α) : Reader β := fun i =>
  match p i with
  | .ok a next =>
    match f a with
    | .ok b => .ok b next
    | .error cause => .failed true { cause } i
  | .failed final why place => .failed final why place

/-- A whole number. -/
def integer : Reader Int := fun i =>
  match i.rest with
  | '0' :: 'x' :: _ => markedInteger "0x" 16 "hexadecimal integer" i
  | '0' :: 'o' :: _ => markedInteger "0o" 8 "octal integer" i
  | '0' :: 'b' :: _ => markedInteger "0b" 2 "binary integer" i
  | _ => settled (fun t => (inRange (signedValue t)).mapError some) decimalInteger i

/-- The fraction of a number. -/
def fraction : Reader Unit :=
  thenRead (char '.') (expecting ["digit".toList] (committed (digits Char.isDigit)))

/-- The exponent of a number. -/
def exponent : Reader Unit :=
  thenRead (oneThat fun c => c == 'e' || c == 'E')
    (thenRead (perhaps (oneThat isSign)) (committed (digits Char.isDigit)))

/-- The number that the text of a decimal means. -/
def decimalValue (t : Text) : Binary :=
  let (negative, t) := splitSign (plain t)
  let whole := t.takeWhile Char.isDigit
  let rest := t.dropWhile Char.isDigit
  let (fraction, rest) :=
    match rest with
    | '.' :: r => (r.takeWhile Char.isDigit, r.dropWhile Char.isDigit)
    | r => ([], r)
  Binary.ofParts .double negative whole fraction (signedValue (rest.drop 1))

/-- A number that is not whole. -/
def ordinaryFloat : Reader Binary :=
  settled
    (fun t =>
      match decimalValue t with
      | .infinite false => .error none
      | x => .ok x)
    (taken (thenRead decimalInteger
      (alternatively exponent (thenRead fraction (map (fun _ => ()) (perhaps exponent))))))

/-- An infinity. -/
def infinity : Reader Binary := map (fun _ => .infinite false) (literal "inf")

/-- What is not a number. -/
def notANumber : Reader Binary := map (fun _ => .nan) (literal "nan")

/-- A number that has a name. -/
def namedFloat : Reader Binary :=
  andThen (perhaps (oneThat isSign)) fun sign =>
    map (fun x => if sign = some '-' then x.neg else x) (alternatively infinity notANumber)

/-- A floating-point number. -/
def float : Reader Binary :=
  labelled "floating-point number" (alternatively ordinaryFloat namedFloat)

/-! ## Dates and times -/

/-- A number of two digits in a range. -/
def twoDigits (low high : Nat) : Reader Nat :=
  checked
    (fun t =>
      let n := Binary.digitsValue t
      if low ≤ n && n ≤ high then .ok n else .error "value is out of range")
    (takeExactly 2 Char.isDigit)

/-- A date. -/
def date : Reader Date :=
  andThen (takeExactly 4 Char.isDigit) fun digits =>
    let year := Binary.digitsValue digits
    andThen (char '-') fun _ =>
      andThen (committed (twoDigits 1 12)) fun month =>
        andThen (committed (char '-')) fun _ =>
          committed (checked
            (fun day =>
              if day ≤ daysOf year month then .ok ⟨year, month, day⟩
              else .error "value is out of range")
            (twoDigits 1 31))

/-- The fraction of a second. -/
def secondFraction : Reader Nat :=
  map (fun digits => nanosecondsOf (digits.getD []))
    (perhaps (thenRead (char '.') (takeSome Char.isDigit)))

/-- A time of day. -/
def time : Reader Time :=
  andThen (twoDigits 0 23) fun hour =>
    andThen (char ':') fun _ =>
      committed
        (andThen (twoDigits 0 59) fun minute =>
          andThen (char ':') fun _ =>
            andThen (twoDigits 0 60) fun second =>
              map (fun nanosecond => ⟨hour, minute, second, nanosecond⟩) secondFraction)

/-- The offset of a time. -/
def timeOffset : Reader Offset :=
  labelled "time offset"
    (alternatively (map (fun _ => .utc) (oneThat fun c => c == 'Z' || c == 'z'))
      (andThen (oneThat isSign) fun sign =>
        committed (andThen (twoDigits 0 23) fun hours =>
          andThen (char ':') fun _ =>
            map (fun minutes => .ofSign sign hours minutes) (twoDigits 0 59))))

/-- A date, a time or both. -/
def dateTime : Reader DateTime :=
  alternatively
    (labelled "date-time"
      (andThen date fun date =>
        map
          (fun clock =>
            { date := some date, time := clock.map (·.1), offset := clock.bind (·.2) })
          (perhaps (thenRead (oneThat DateTime.isBetween)
            (andThen time fun time =>
              map (fun offset => (time, offset)) (perhaps timeOffset))))))
    (labelled "time" (map (fun time => { time := some time }) time))

end ModuleHooks.Toml
