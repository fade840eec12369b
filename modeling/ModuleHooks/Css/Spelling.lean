import ModuleHooks.Css.Token
/-!
# How words are written

The written form of identifiers, strings and numbers. An identifier is escaped where it
would not be read back as one; a string stands between double quotes; a number has at
most six significant digits and no zero before its point.
-/

namespace ModuleHooks.Css

/-- A character as a hexadecimal escape. -/
def hexEscape (c : Char) : Text := '\\' :: Nat.toDigits 16 c.toNat ++ [' ']

/-- Whether a character is a control that is escaped by its number. -/
def isControl (c : Char) : Bool := (0 < c.toNat && c.toNat < 32) || c.toNat = 127

/-- A character of a name. -/
def writeNameChar (c : Char) : Text :=
  if c.isAlphanum || c = '_' || c = '-' || c.toNat ≥ 128 then [c]
  else if c.toNat = 0 then ['\uFFFD']
  else if isControl c then hexEscape c
  else ['\\', c]

/-- The continuation of an identifier. -/
def writeName (t : Text) : Text := t.flatMap writeNameChar

/-- The start of an identifier: a digit cannot stand there. -/
def writeNameStart : Text → Text
  | [] => []
  | c :: r => if c.isDigit then hexEscape c ++ writeName r else writeName (c :: r)

/-- **An identifier.** -/
def writeIdent : Text → Text
  | ['-'] => ['\\', '-']
  | '-' :: '-' :: r => '-' :: '-' :: writeName r
  | '-' :: r => '-' :: writeNameStart r
  | t => writeNameStart t

/-- A character of a string. -/
def writeStringChar (c : Char) : Text :=
  if c = '"' then ['\\', '"']
  else if c = '\\' then ['\\', '\\']
  else if c.toNat = 0 then ['\uFFFD']
  else if isControl c then hexEscape c
  else [c]

/-- **A string.** -/
def writeString (t : Text) : Text := '"' :: t.flatMap writeStringChar ++ ['"']

/-- A URL. -/
def writeUrl (t : Text) : Text := ("url(" : Text) ++ writeString t ++ [')']

/-! ## Numbers -/

/-- A decimal rounded to so many significant digits, a half upwards. -/
def roundDigits (places : Nat) (d : Binary.Decimal) : Binary.Decimal :=
  let count := (Text.ofNat d.digits).length
  if count ≤ places then d
  else
    let drop := count - places
    (Binary.Decimal.mk ((d.digits + 5 * Nat.pow 10 (drop - 1)) / Nat.pow 10 drop) (d.exponent + drop)).trimmed 20

/-- The decimal of a number; an infinite one has that of the power of two above all
numbers, and what is no number half as much again. -/
def decimalOf : Binary → Binary.Decimal
  | .nan => ⟨510424, 33⟩
  | .infinite _ => ⟨340282, 33⟩
  | x => Binary.shortest .single x

/-- A number with at most six significant digits, with a zero before its point. -/
def writeDigits (x : Binary) : Text :=
  let d := decimalOf x
  let magnitude := d.magnitude
  let text :=
    if d.digits = 0 then ['0']
    else if -6 < magnitude && magnitude ≤ 21 then (roundDigits 6 d).render
    else (roundDigits 6 d).scientific
  if x.isNegative then '-' :: text else text

/-- Whether the absolute value of a number is between nought and a bound `1 / n`. -/
def isBelow (n : Nat) (x : Binary) : Bool :=
  let (num, den) := x.ratio
  x.isFinite && num ≠ 0 && num * n < den

/-- A text without the zeros in front. -/
def dropZeros (t : Text) : Text := t.dropWhile (· == '0')

/-- A text without zeros after a minus sign; other texts get a second sign. -/
def dropNegativeZeros : Text → Text
  | '-' :: '0' :: r => '-' :: dropNegativeOnce r
  | t => '-' :: t
where
  /-- Removes further signed zeros. -/
  dropNegativeOnce : Text → Text
    | '-' :: '0' :: r => dropNegativeOnce r
    | t => t

/-- A text of a number below one, without its zero. -/
def shortenFraction (x : Binary) (t : Text) : Text :=
  if x.isNegative then dropNegativeZeros t else dropZeros t

/-- **A number.** -/
def writeNumber (x : Binary) : Text :=
  if isBelow 1 x then shortenFraction x (writeDigits x) else writeDigits x

/-- The whole part of a 32-bit number, clamped to 32 bits. -/
def wholeOf (x : Binary) : Int :=
  max (-2147483648) (min 2147483647 (x.toInt .toZero))

/-- Whether a unit could be read as a power of ten. -/
def startsExponent (t : Text) : Bool :=
  t = ['e'] || t = ['E'] || Text.startsWith t "e-" || Text.startsWith t "E-"

/-- A unit; its first letter is escaped where it could be read as part of the number. -/
def writeUnit (unit : Text) : Text :=
  if startsExponent unit then ("\\65 " : Text) ++ writeName (unit.drop 1) else writeIdent unit

/-- **A number with its unit.** Whole numbers are written in full. -/
def writeDimension (x : Binary) (unit : Text) : Text :=
  if isBelow 1 x then shortenFraction x (writeDigits x) ++ writeUnit unit
  else if x.isWhole && !(x.isZero && x.isNegative) then Text.ofInt (wholeOf x) ++ writeUnit unit
  else writeDigits x ++ writeUnit unit

/-- **A percentage**, from its hundredth. -/
def writePercentage (x : Binary) : Text :=
  let scaled := Binary.mul .single x (.ofInt .single 100)
  if isBelow 100 x then shortenFraction x (writeDigits scaled) ++ ['%']
  else writeDigits scaled ++ ['%']

/-- A number as it stands in an unread list of tokens. -/
def writeNumericToken (hasSign isInteger : Bool) (x : Binary) : Text :=
  let sign : Text := if hasSign && !x.isNegative then ['+'] else []
  let digits := writeDigits x
  let point : Text :=
    if !isInteger && x.isWhole && !digits.any (fun c => c == '.' || c == 'e') then ".0" else []
  sign ++ digits ++ point

end ModuleHooks.Css
