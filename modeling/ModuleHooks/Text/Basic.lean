/-!
# Text

A text is a list of characters. Everything the library reads or writes is a text, so
that every function on it is an ordinary recursion on a list and every statement about
it is an ordinary statement about lists.

String literals become texts by a coercion; `Text.toString` goes back when a text
leaves the library.
-/

namespace ModuleHooks

/-- **Text**, a list of Unicode scalar values. -/
abbrev Text := List Char

namespace Text

instance : Coe String Text := ⟨String.toList⟩

/-- The text as a string, for printing. -/
def toString (t : Text) : String := String.ofList t

/-- The decimal digits of a natural number. -/
def ofNat (n : Nat) : Text := Nat.toDigits 10 n

/-- The decimal notation of an integer. -/
def ofInt : Int → Text
  | .ofNat n => ofNat n
  | .negSucc n => '-' :: ofNat (n + 1)

/-- A hexadecimal digit in lower case. -/
def hexDigit (n : Nat) : Char := Nat.digitChar n

/-- The value of a hexadecimal digit in either case. -/
def hexValue? (c : Char) : Option Nat :=
  let n := c.toNat
  if 48 ≤ n && n ≤ 57 then some (n - 48)
  else if 97 ≤ n && n ≤ 102 then some (n - 87)
  else if 65 ≤ n && n ≤ 70 then some (n - 55)
  else none

/-- The number that hexadecimal digits write; another character counts as zero. -/
def hexNumber (t : Text) : Nat := t.foldl (fun n c => n * 16 + (hexValue? c).getD 0) 0

/-- **The pieces between the characters that satisfy `sep`.** There is always at least
one piece, and one more than there are separators. -/
def splitBy (sep : Char → Bool) : Text → List Text
  | [] => [[]]
  | c :: r =>
    if sep c then [] :: splitBy sep r
    else
      match splitBy sep r with
      | [] => [[c]]
      | p :: ps => (c :: p) :: ps

/-- The pieces between the occurrences of one character. -/
def splitOn (sep : Char) (t : Text) : List Text := splitBy (· == sep) t

/-- The pieces with a text between each two of them. -/
def join (sep : Text) (pieces : List Text) : Text := sep.intercalate pieces

/-- Whether the text begins with `p`. -/
def startsWith (t p : Text) : Bool := p.isPrefixOf t

/-- Whether the text ends with `p`. -/
def endsWith (t p : Text) : Bool := p.isSuffixOf t

/-- What follows `p`, when the text begins with it. -/
def stripStart? (p : Text) : Text → Option Text := fun t =>
  match p, t with
  | [], t => some t
  | _ :: _, [] => none
  | a :: p, b :: t => if a = b then stripStart? p t else none

/-- The text without the leading characters that satisfy `blank`. -/
def trimStart (blank : Char → Bool) (t : Text) : Text := t.dropWhile blank

/-- The text without the trailing characters that satisfy `blank`. -/
def trimEnd (blank : Char → Bool) (t : Text) : Text := (t.reverse.dropWhile blank).reverse

/-- The text without the outer characters that satisfy `blank`. -/
def trim (blank : Char → Bool) (t : Text) : Text := trimEnd blank (trimStart blank t)

/-- The text with ASCII letters in lower case. -/
def lowerAscii (t : Text) : Text := t.map Char.toLower

/-- The text with ASCII letters in upper case. -/
def upperAscii (t : Text) : Text := t.map Char.toUpper

/-- Equality up to the case of ASCII letters. -/
def eqIgnoringCase (s t : Text) : Bool := lowerAscii s == lowerAscii t

/-- The parts before and after the last occurrence of `c`. -/
def splitLast? (c : Char) : Text → Option (Text × Text)
  | [] => none
  | d :: r =>
    match splitLast? c r with
    | some (before, after) => some (d :: before, after)
    | none => if d = c then some ([], r) else none

/-- The parts before and after the first occurrence of `p`. -/
def splitFirst? (p : Text) : Text → Option (Text × Text)
  | [] => if p = [] then some ([], []) else none
  | c :: r =>
    match stripStart? p (c :: r) with
    | some rest => some ([], rest)
    | none => (splitFirst? p r).map fun x => (c :: x.1, x.2)

/-- Whether `p` occurs in the text. -/
def contains (t p : Text) : Bool := (splitFirst? p t).isSome

/-- Every occurrence of the character `c` replaced by the text `by'`. -/
def replaceChar (c : Char) (new : Text) (t : Text) : Text :=
  t.flatMap fun d => if d = c then new else [d]

/-- **The order of code points**, which is also the order of UTF-8 encodings. -/
def lt : Text → Text → Bool
  | [], [] => false
  | [], _ :: _ => true
  | _ :: _, [] => false
  | a :: s, b :: t => if a = b then lt s t else a.toNat < b.toNat

/-- Inserts into a list sorted by key; an equal key is replaced. -/
def insertSorted {α : Type} (key : Text) (value : α) : List (Text × α) → List (Text × α)
  | [] => [(key, value)]
  | (k, v) :: r =>
    if key = k then (key, value) :: r
    else if lt key k then (key, value) :: (k, v) :: r
    else (k, v) :: insertSorted key value r

/-- The value of a key in a list of pairs. -/
def lookup? {α : Type} (key : Text) (pairs : List (Text × α)) : Option α :=
  (pairs.find? fun p => p.1 == key).map (·.2)

@[simp] theorem splitBy_nil (sep : Char → Bool) : splitBy sep [] = [[]] := rfl

@[simp] theorem stripStart?_nil (t : Text) : stripStart? [] t = some t := by
  simp [stripStart?]

end Text

end ModuleHooks
