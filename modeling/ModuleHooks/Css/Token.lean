import ModuleHooks.Binary.Decimal
import ModuleHooks.Text.Quoted
/-!
# Tokens of stylesheets

The words of a stylesheet, each with the place where it begins and the text it was read
from. Numbers are kept in 32 bits, together with their whole value when they are written
without a fraction or an exponent.
-/

namespace ModuleHooks.Css

/-- **A place in a stylesheet.** Lines count from nought and columns from one; a column
is a unit of UTF-16. -/
structure Place where
  line : Nat := 0
  column : Nat := 1
  deriving DecidableEq, Repr, Inhabited

/-- **A number** as it is written. -/
structure Numeric where
  /-- Whether a sign is written. -/
  hasSign : Bool
  /-- The value; of a percentage, a hundredth of what is written. -/
  value : Binary
  /-- The whole value, when there is neither fraction nor exponent. -/
  integer : Option Int
  deriving DecidableEq, Repr

/-- The three kinds of brackets. -/
inductive Bracket where
  | round
  | square
  | curly
  deriving DecidableEq, Repr

/-- **A token.** -/
inductive Token where
  | ident (name : Text)
  | atKeyword (name : Text)
  /-- A hash that is no identifier. -/
  | hash (name : Text)
  /-- A hash that is an identifier. -/
  | idHash (name : Text)
  | string (value : Text)
  /-- A string that a line end broke off. -/
  | badString (value : Text)
  | url (value : Text)
  | badUrl (value : Text)
  | delim (c : Char)
  | number (n : Numeric)
  | percentage (n : Numeric)
  | dimension (n : Numeric) (unit : Text)
  | whitespace (t : Text)
  | comment (t : Text)
  | colon
  | semicolon
  | comma
  /-- One of the attribute operators of two characters, by its first. -/
  | matcher (first : Char)
  | commentOpen
  | commentClose
  /-- A name with an opening bracket right after it. -/
  | function (name : Text)
  | opening (b : Bracket)
  | closing (b : Bracket)
  deriving DecidableEq, Repr

/-! ## How messages show tokens -/

/-- A truth value in a message. -/
def showBool (b : Bool) : Text := if b then "true" else "false"

/-- The absolute value of a finite 32-bit number in a message: far from one by a power of
ten, otherwise in full with a digit after the point at least. -/
def showDecimal (d : Binary.Decimal) : Text :=
  if d.digits ≠ 0 && (d.magnitude > 16 || d.magnitude < -3) then d.scientific
  else if d.parts.2 = [] then d.render ++ ".0".toList
  else d.render

/-- A 32-bit number in a message. -/
def showValue : Binary → Text
  | .finite s e m => (if s then ['-'] else []) ++ showDecimal (Binary.shortest .single (.finite s e m))
  | x => Binary.render .single x

/-- The fields of a number in a message. -/
def showNumeric (n : Numeric) (valueName : Text) : Text :=
  ("has_sign: " : Text) ++ showBool n.hasSign ++ ", ".toList ++ valueName ++ ": ".toList ++
    showValue n.value ++ ", int_value: ".toList ++
    match n.integer with
    | some k => ("Some(" : Text) ++ Text.ofInt k ++ [')']
    | none => "None"

/-- A character in a message. -/
def showChar (c : Char) : Text :=
  if c = '\'' then ['\'', '\\', '\'', '\'']
  else if c = '"' then ['\'', '"', '\'']
  else '\'' :: Text.shownChar c ++ ['\'']

/-- A text in a message, after the name of what it belongs to. -/
def showNamed (kind : Text) (t : Text) : Text := kind ++ '(' :: Text.shown t ++ [')']

/-- **A token as messages show it.** -/
def Token.shown : Token → Text
  | .ident t => showNamed "Ident" t
  | .atKeyword t => showNamed "AtKeyword" t
  | .hash t => showNamed "Hash" t
  | .idHash t => showNamed "IDHash" t
  | .string t => showNamed "String" t
  | .badString t => showNamed "BadString" t
  | .url t => showNamed "UnquotedUrl" t
  | .badUrl t => showNamed "BadUrl" t
  | .delim c => ("Delim(" : Text) ++ showChar c ++ [')']
  | .number n => ("Number \x7b " : Text) ++ showNumeric n "value" ++ " \x7d".toList
  | .percentage n => ("Percentage \x7b " : Text) ++ showNumeric n "unit_value" ++ " \x7d".toList
  | .dimension n unit =>
    ("Dimension \x7b " : Text) ++ showNumeric n "value" ++ ", unit: ".toList ++ Text.shown unit ++
      " \x7d".toList
  | .whitespace t => showNamed "WhiteSpace" t
  | .comment t => showNamed "Comment" t
  | .colon => "Colon"
  | .semicolon => "Semicolon"
  | .comma => "Comma"
  | .matcher '~' => "IncludeMatch"
  | .matcher '|' => "DashMatch"
  | .matcher '^' => "PrefixMatch"
  | .matcher '$' => "SuffixMatch"
  | .matcher _ => "SubstringMatch"
  | .commentOpen => "CDO"
  | .commentClose => "CDC"
  | .function t => showNamed "Function" t
  | .opening .round => "ParenthesisBlock"
  | .opening .square => "SquareBracketBlock"
  | .opening .curly => "CurlyBracketBlock"
  | .closing .round => "CloseParenthesis"
  | .closing .square => "CloseSquareBracket"
  | .closing .curly => "CloseCurlyBracket"

/-- Whether a token can stand nowhere in a value. -/
def Token.isMistake : Token → Bool
  | .badString _ => true
  | .badUrl _ => true
  | .closing _ => true
  | _ => false

/-- Whether a token only separates. -/
def Token.isBlank : Token → Bool
  | .whitespace _ => true
  | .comment _ => true
  | _ => false

end ModuleHooks.Css
