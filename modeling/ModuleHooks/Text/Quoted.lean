import ModuleHooks.Text.CodePoints
import ModuleHooks.Text.UnseenTable
/-!
# Quoted literals

The literal form of a text in JSON: between double quotes, with the quote, the
backslash and the control characters escaped. A literal of this form is at the same
time a string literal of JavaScript, which is why values are embedded in this form.

`unquote?` reads one literal at the front of a text, so that what was embedded can be
taken out again.
-/

namespace ModuleHooks.Text

/-- The escaped form of a character inside a literal. -/
def escapeChar (c : Char) : Text :=
  if c = '"' then ['\\', '"']
  else if c = '\\' then ['\\', '\\']
  else if c.toNat = 8 then ['\\', 'b']
  else if c.toNat = 12 then ['\\', 'f']
  else if c = '\n' then ['\\', 'n']
  else if c = '\r' then ['\\', 'r']
  else if c = '\t' then ['\\', 't']
  else if c.toNat < 32 then
    ['\\', 'u', '0', '0', hexDigit (c.toNat / 16), hexDigit (c.toNat % 16)]
  else [c]

/-- **The literal of a text.** -/
def quote (t : Text) : Text := '"' :: t.flatMap escapeChar ++ ['"']

/-- The character that a one-letter escape stands for. -/
def unescape? (c : Char) : Option Char :=
  if c = '"' then some '"'
  else if c = '\\' then some '\\'
  else if c = '/' then some '/'
  else if c = 'b' then some (Char.ofNat 8)
  else if c = 'f' then some (Char.ofNat 12)
  else if c = 'n' then some '\n'
  else if c = 'r' then some '\r'
  else if c = 't' then some '\t'
  else none

/-- The number written by four hexadecimal digits. -/
def hex4? (a b c d : Char) : Option Nat := do
  let a ← hexValue? a
  let b ← hexValue? b
  let c ← hexValue? c
  let d ← hexValue? d
  return ((a * 16 + b) * 16 + c) * 16 + d

/-- The body of a literal up to its closing quote, and what follows it. -/
def unquoteBody? : Text → Option (Text × Text)
  | [] => none
  | '"' :: r => some ([], r)
  | '\\' :: 'u' :: a :: b :: c :: d :: '\\' :: 'u' :: e :: f :: g :: h :: r =>
    match hex4? a b c d with
    | none => none
    | some n =>
      if 0xD800 ≤ n && n < 0xDC00 then
        match hex4? e f g h with
        | none => none
        | some m =>
          if 0xDC00 ≤ m && m < 0xE000 then
            (unquoteBody? r).map fun x =>
              (Char.ofNat (0x10000 + (n - 0xD800) * 1024 + (m - 0xDC00)) :: x.1, x.2)
          else none
      else if 0xDC00 ≤ n && n < 0xE000 then none
      else
        (unquoteBody? ('\\' :: 'u' :: e :: f :: g :: h :: r)).map fun x =>
          (Char.ofNat n :: x.1, x.2)
  | '\\' :: 'u' :: a :: b :: c :: d :: r =>
    match hex4? a b c d with
    | none => none
    | some n =>
      if 0xD800 ≤ n && n < 0xE000 then none
      else (unquoteBody? r).map fun x => (Char.ofNat n :: x.1, x.2)
  | '\\' :: c :: r =>
    match unescape? c with
    | none => none
    | some d => (unquoteBody? r).map fun x => (d :: x.1, x.2)
  | c :: r =>
    if c.toNat < 32 then none else (unquoteBody? r).map fun x => (c :: x.1, x.2)

/-- **Reads a literal** at the front of a text. -/
def unquote? : Text → Option (Text × Text)
  | '"' :: r => unquoteBody? r
  | _ => none

/-! ## Literals in messages -/

/-- The characters that are not seen. -/
def unseen : CodePoints.Table Bool := CodePoints.ofSetWords UnseenTable.unseenWords

/-- **Whether a character is shown by its number in a message**, because it is not seen
or would fuse with the character before it. -/
def isUnseen (c : Char) : Bool :=
  if 32 ≤ c.toNat && c.toNat < 127 then false else CodePoints.holds unseen c

/-- A character inside a literal in a message. -/
def shownChar (c : Char) : Text :=
  if c = '"' then ['\\', '"']
  else if c = '\\' then ['\\', '\\']
  else if c = '\n' then ['\\', 'n']
  else if c = '\r' then ['\\', 'r']
  else if c = '\t' then ['\\', 't']
  else if c.toNat = 0 then ['\\', '0']
  else if isUnseen c then
    ['\\', 'u', '\x7b'] ++ Nat.toDigits 16 c.toNat ++ ['\x7d']
  else [c]

/-- **The literal of a text as messages show it.** -/
def shown (t : Text) : Text := '"' :: t.flatMap shownChar ++ ['"']

end ModuleHooks.Text
