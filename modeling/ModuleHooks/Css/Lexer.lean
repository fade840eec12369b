import ModuleHooks.Css.Token
/-!
# Cutting stylesheets into tokens

Each reader below takes what it can from the front of a text and gives back how many
characters that was. The whole text is cut by taking one token after the other; together
the tokens hold every character.
-/

namespace ModuleHooks.Css.Lexer

/-- What a reader took: a result, the number of characters, and the rest. -/
structure Taken (α : Type) where
  value : α
  count : Nat
  rest : Text

/-- Whether a character is blank. -/
def isBlank (c : Char) : Bool :=
  c == ' ' || c == '\t' || c == '\n' || c == '\r' || c == '\x0c'

/-- Whether a character ends a line. -/
def isLineEnd (c : Char) : Bool := c == '\n' || c == '\r' || c == '\x0c'

/-- Whether a character can begin a name. -/
def isNameStart (c : Char) : Bool := c.isAlpha || c == '_' || c.toNat ≥ 128

/-- Whether a character can stand in a name. -/
def isNameChar (c : Char) : Bool := isNameStart c || c.isDigit || c == '-'

/-- Whether a text begins with an escape. -/
def startsEscape : Text → Bool
  | '\\' :: c :: _ => !isLineEnd c
  | ['\\'] => true
  | _ => false

/-- Whether a text begins with an identifier. -/
def startsIdent : Text → Bool
  | '-' :: '-' :: _ => true
  | '-' :: c :: r => isNameStart c || startsEscape (c :: r)
  | ['-'] => false
  | c :: r => isNameStart c || (c == '\\' && startsEscape (c :: r))
  | [] => false

/-- Up to `n` hexadecimal digits and their value. -/
def takeHex : Nat → Text → Taken Nat
  | 0, t => ⟨0, 0, t⟩
  | n + 1, t =>
    let digits := (t.take (n + 1)).takeWhile fun c => (Text.hexValue? c).isSome
    ⟨digits.foldl (fun v c => v * 16 + (Text.hexValue? c).getD 0) 0, digits.length,
      t.drop digits.length⟩

/-- The character of a code point; those that are none become the replacement
character. -/
def charOf (n : Nat) : Char :=
  if n = 0 || (0xD800 ≤ n && n < 0xE000) || n ≥ 0x110000 then '\uFFFD' else Char.ofNat n

/-- An escape, after its backslash. -/
def takeEscape (t : Text) : Taken Char :=
  match t with
  | [] => ⟨'\uFFFD', 0, []⟩
  | c :: r =>
    let hex := takeHex 6 t
    if hex.count = 0 then ⟨c, 1, r⟩
    else
      match hex.rest with
      | '\r' :: '\n' :: r => ⟨charOf hex.value, hex.count + 2, r⟩
      | d :: r =>
        if isBlank d then ⟨charOf hex.value, hex.count + 1, r⟩
        else ⟨charOf hex.value, hex.count, d :: r⟩
      | [] => ⟨charOf hex.value, hex.count, []⟩

/-- A name. The first argument bounds its length. -/
def takeName : Nat → Text → Taken Text
  | 0, t => ⟨[], 0, t⟩
  | n + 1, t =>
    match t with
    | [] => ⟨[], 0, []⟩
    | c :: r =>
      if isNameChar c then
        let more := takeName n r
        ⟨c :: more.value, more.count + 1, more.rest⟩
      else if c = '\\' && startsEscape (c :: r) then
        let e := takeEscape r
        let more := takeName n e.rest
        ⟨e.value :: more.value, e.count + more.count + 1, more.rest⟩
      else ⟨[], 0, t⟩

/-- A string after its opening quote. The first argument bounds its length. -/
def takeString (quote : Char) : Nat → Text → Taken (Bool × Text)
  | 0, t => ⟨(true, []), 0, t⟩
  | n + 1, t =>
    match t with
    | [] => ⟨(true, []), 0, []⟩
    | c :: r =>
      if c = quote then ⟨(true, []), 1, r⟩
      else if isLineEnd c then ⟨(false, []), 0, t⟩
      else if c = '\\' then
        match r with
        | [] => ⟨(true, []), 1, []⟩
        | '\r' :: '\n' :: s =>
          let more := takeString quote n s
          ⟨more.value, more.count + 3, more.rest⟩
        | d :: s =>
          if isLineEnd d then
            let more := takeString quote n s
            ⟨more.value, more.count + 2, more.rest⟩
          else
            let e := takeEscape r
            let more := takeString quote n e.rest
            ⟨(more.value.1, e.value :: more.value.2), e.count + more.count + 1, more.rest⟩
      else
        let more := takeString quote n r
        ⟨(more.value.1, c :: more.value.2), more.count + 1, more.rest⟩

/-- The remains of a malformed URL, up to its closing bracket. -/
def takeBadUrl : Nat → Text → Nat × Text
  | 0, t => (0, t)
  | n + 1, t =>
    match t with
    | [] => (0, [])
    | ')' :: r => (1, r)
    | '\\' :: _ :: r =>
      let (k, rest) := takeBadUrl n r
      (k + 2, rest)
    | _ :: r =>
      let (k, rest) := takeBadUrl n r
      (k + 1, rest)

/-- The inside of a URL without quotes: whether it is well formed, and its text. -/
def takeUrl : Nat → Text → Taken (Bool × Text)
  | 0, t => ⟨(true, []), 0, t⟩
  | n + 1, t =>
    match t with
    | [] => ⟨(true, []), 0, []⟩
    | c :: r =>
      if c = ')' then ⟨(true, []), 1, r⟩
      else if isBlank c then
        let blanks := (c :: r).takeWhile isBlank
        match (c :: r).dropWhile isBlank with
        | [] => ⟨(true, []), blanks.length, []⟩
        | ')' :: s => ⟨(true, []), blanks.length + 1, s⟩
        | s =>
          let (k, rest) := takeBadUrl n s
          ⟨(false, []), blanks.length + k, rest⟩
      else if c = '"' || c = '\'' || c = '(' || c.toNat < 32 || c.toNat = 127 then
        let (k, rest) := takeBadUrl n r
        ⟨(false, []), k + 1, rest⟩
      else if c = '\\' then
        if startsEscape (c :: r) then
          let e := takeEscape r
          let more := takeUrl n e.rest
          ⟨(more.value.1, e.value :: more.value.2), e.count + more.count + 1, more.rest⟩
        else
          let (k, rest) := takeBadUrl n r
          ⟨(false, []), k + 1, rest⟩
      else
        let more := takeUrl n r
        ⟨(more.value.1, c :: more.value.2), more.count + 1, more.rest⟩

/-- A number: sign, whole part, fraction, exponent. -/
structure Digits where
  sign : Option Char
  whole : Text
  fraction : Text
  exponent : Option Int
  count : Nat
  rest : Text

/-- The exponent at the front of a text, with the number of its characters. -/
def takeExponent (t : Text) : Option (Int × Nat × Text) :=
  match t with
  | e :: r =>
    if e = 'e' || e = 'E' then
      let (negative, signs, r) :=
        match r with
        | '+' :: s => (false, 1, s)
        | '-' :: s => (true, 1, s)
        | s => (false, 0, s)
      match r.takeWhile Char.isDigit with
      | [] => none
      | ds =>
        let n : Int := Binary.digitsValue ds
        some (if negative then -n else n, 1 + signs + ds.length, r.dropWhile Char.isDigit)
    else none
  | [] => none

/-- Reads the digits of a number. -/
def takeDigits (t : Text) : Digits :=
  let (sign, r) :=
    match t with
    | '+' :: r => (some '+', r)
    | '-' :: r => (some '-', r)
    | r => (none, r)
  let whole := r.takeWhile Char.isDigit
  let r := r.dropWhile Char.isDigit
  let (fraction, dots, r) :=
    match r with
    | '.' :: d :: s =>
      if d.isDigit then ((d :: s).takeWhile Char.isDigit, 1, (d :: s).dropWhile Char.isDigit)
      else ([], 0, r)
    | r => ([], 0, r)
  let count := (if sign.isSome then 1 else 0) + whole.length + dots + fraction.length
  match takeExponent r with
  | some (e, k, rest) => ⟨sign, whole, fraction, some e, count + k, rest⟩
  | none => ⟨sign, whole, fraction, none, count, r⟩

/-- The largest and the smallest whole number of 32 bits stand for those beyond. -/
def clampInt (n : Int) : Int := max (-2147483648) (min 2147483647 n)

/-- The number that digits mean, with the point so many places further left. -/
def Digits.numeric (d : Digits) (places : Int) : Numeric :=
  let negative := d.sign == some '-'
  let whole : Int := Binary.digitsValue d.whole
  { hasSign := d.sign.isSome
    value := Binary.ofParts .single negative d.whole d.fraction (d.exponent.getD 0 - places)
    integer :=
      if d.fraction = [] && d.exponent.isNone then
        some (clampInt (if negative then -whole else whole))
      else none }

/-- A number with what is attached to it. -/
def takeNumeric (fuel : Nat) (t : Text) : Taken Token :=
  let d := takeDigits t
  match d.rest with
  | '%' :: r => ⟨.percentage (d.numeric 2), d.count + 1, r⟩
  | r =>
    if startsIdent r then
      let unit := takeName fuel r
      ⟨.dimension (d.numeric 0) unit.value, d.count + unit.count, unit.rest⟩
    else ⟨.number (d.numeric 0), d.count, r⟩

/-- Whether a text begins with a number. -/
def startsNumber : Text → Bool
  | '.' :: d :: _ => d.isDigit
  | d :: _ => d.isDigit
  | [] => false

/-- An identifier, a function or a URL. -/
def takeIdentLike (fuel : Nat) (t : Text) : Taken Token :=
  let name := takeName fuel t
  match name.rest with
  | '(' :: r =>
    if Text.lowerAscii name.value = ("url" : Text) then
      match r.dropWhile isBlank with
      | c :: _ =>
        if c = '"' || c = '\'' then ⟨.function name.value, name.count + 1, r⟩
        else
          let blanks := (r.takeWhile isBlank).length
          let url := takeUrl fuel (r.dropWhile isBlank)
          let count := name.count + 1 + blanks + url.count
          if url.value.1 then ⟨.url url.value.2, count, url.rest⟩
          else ⟨.badUrl (r.take (blanks + url.count - 1)), count, url.rest⟩
      | [] => ⟨.url [], name.count + 1 + r.length, []⟩
    else ⟨.function name.value, name.count + 1, r⟩
  | r => ⟨.ident name.value, name.count, r⟩

/-- The text of a comment after its opening, and what follows its end. -/
def takeComment : Text → Taken Text
  | '*' :: '/' :: r => ⟨[], 2, r⟩
  | c :: r =>
    let more := takeComment r
    ⟨c :: more.value, more.count + 1, more.rest⟩
  | [] => ⟨[], 0, []⟩

/-- **One token** of a text that is not empty. The first argument bounds its length. -/
def takeToken (fuel : Nat) (t : Text) : Taken Token :=
  match t with
  | [] => ⟨.delim ' ', 0, []⟩
  | c :: r =>
    if isBlank c then
      let blanks := t.takeWhile isBlank
      ⟨.whitespace blanks, blanks.length, t.dropWhile isBlank⟩
    else if c = '"' || c = '\'' then
      let s := takeString c fuel r
      ⟨if s.value.1 then .string s.value.2 else .badString s.value.2, s.count + 1, s.rest⟩
    else if c = '#' then
      if startsIdent r then
        let name := takeName fuel r
        ⟨.idHash name.value, name.count + 1, name.rest⟩
      else
        match r with
        | d :: _ =>
          if isNameChar d then
            let name := takeName fuel r
            ⟨.hash name.value, name.count + 1, name.rest⟩
          else ⟨.delim c, 1, r⟩
        | [] => ⟨.delim c, 1, r⟩
    else if c = '(' then ⟨.opening .round, 1, r⟩
    else if c = ')' then ⟨.closing .round, 1, r⟩
    else if c = '[' then ⟨.opening .square, 1, r⟩
    else if c = ']' then ⟨.closing .square, 1, r⟩
    else if c = '\x7b' then ⟨.opening .curly, 1, r⟩
    else if c = '\x7d' then ⟨.closing .curly, 1, r⟩
    else if c = ',' then ⟨.comma, 1, r⟩
    else if c = ':' then ⟨.colon, 1, r⟩
    else if c = ';' then ⟨.semicolon, 1, r⟩
    else if c.isDigit then takeNumeric fuel t
    else if c = '+' then if startsNumber r then takeNumeric fuel t else ⟨.delim c, 1, r⟩
    else if c = '.' then if startsNumber t then takeNumeric fuel t else ⟨.delim c, 1, r⟩
    else if c = '-' then
      if startsNumber r then takeNumeric fuel t
      else
        match r with
        | '-' :: '>' :: s => ⟨.commentClose, 3, s⟩
        | _ => if startsIdent t then takeIdentLike fuel t else ⟨.delim c, 1, r⟩
    else if c = '/' then
      match r with
      | '*' :: s =>
        let k := takeComment s
        ⟨.comment k.value, k.count + 2, k.rest⟩
      | _ => ⟨.delim c, 1, r⟩
    else if c = '<' then
      match r with
      | '!' :: '-' :: '-' :: s => ⟨.commentOpen, 4, s⟩
      | _ => ⟨.delim c, 1, r⟩
    else if c = '@' then
      if startsIdent r then
        let name := takeName fuel r
        ⟨.atKeyword name.value, name.count + 1, name.rest⟩
      else ⟨.delim c, 1, r⟩
    else if c = '~' || c = '|' || c = '^' || c = '$' || c = '*' then
      match r with
      | '=' :: s => ⟨.matcher c, 2, s⟩
      | _ => ⟨.delim c, 1, r⟩
    else if isNameStart c then takeIdentLike fuel t
    else if c = '\\' then if startsEscape t then takeIdentLike fuel t else ⟨.delim c, 1, r⟩
    else ⟨.delim c, 1, r⟩

/-- The place after a text that begins at a place. -/
def advance (p : Place) : Text → Place
  | [] => p
  | '\r' :: '\n' :: r => advance ⟨p.line + 1, 1⟩ r
  | c :: r =>
    if isLineEnd c then advance ⟨p.line + 1, 1⟩ r
    else advance ⟨p.line, p.column + if c.toNat < 0x10000 then 1 else 2⟩ r

/-- **A token in its place.** -/
structure Lexeme where
  /-- Where it begins. -/
  place : Place
  /-- The text it was read from. -/
  written : Text
  token : Token
  deriving Repr

/-- The tokens of a text that begins at a place, and the place where it ends. The first
argument bounds the length of the text. -/
def tokensFrom : Nat → Place → Text → List Lexeme × Place
  | 0, p, _ => ([], p)
  | _ + 1, p, [] => ([], p)
  | n + 1, p, c :: r =>
    let x := takeToken (n + 1) (c :: r)
    let written := (c :: r).take x.count
    let (more, last) := tokensFrom n (advance p written) x.rest
    (⟨p, written, x.value⟩ :: more, last)

/-- **The tokens of a stylesheet**, and the place where it ends. The character with the
number nought counts as the replacement character. -/
def tokens (t : Text) : List Lexeme × Place :=
  let t := t.map fun c => if c.toNat = 0 then '\uFFFD' else c
  tokensFrom t.length {} t

end ModuleHooks.Css.Lexer
