import ModuleHooks.Text.Basic
import ModuleHooks.Text.CaseTable
/-!
# Case and blanks

Full case mapping of Unicode, one character at a time and for whole texts, and the set
of blank characters that are trimmed from typed values.

For a whole text the only rule that looks at neighbours is that of sigma: at the end of
a word it becomes the final form.
-/

namespace ModuleHooks.Text

open CaseTable

/-- The shift of a code point under a table of runs, if a run covers it. -/
def shift? (runs : List (Nat × Nat × Nat × Int)) (n : Nat) : Option Int :=
  (runs.find? fun r =>
    r.1 ≤ n && n ≤ r.2.1 && (n - r.1) % r.2.2.1 == 0).map (·.2.2.2)

/-- The mapping of one character that a table of runs and one of expansions describe. -/
def mapCase (runs : List (Nat × Nat × Nat × Int)) (expansions : List (Nat × List Nat))
    (c : Char) : Text :=
  match expansions.find? (·.1 == c.toNat) with
  | some e => e.2.map Char.ofNat
  | none =>
    match shift? runs c.toNat with
    | some d => [Char.ofNat (c.toNat + d).toNat]
    | none => [c]

/-- **The lower-case form of a character**, which may be several characters. -/
def lowerChar (c : Char) : Text :=
  if c.toNat < 128 then [c.toLower] else mapCase lowerRuns lowerExpansions c

/-- **The upper-case form of a character**, which may be several characters. -/
def upperChar (c : Char) : Text :=
  if c.toNat < 128 then [c.toUpper] else mapCase upperRuns upperExpansions c

/-- Whether some range of the list holds the character. -/
def inRanges (ranges : List (Nat × Nat)) (c : Char) : Bool :=
  ranges.any fun r => r.1 ≤ c.toNat && c.toNat ≤ r.2

/-- Whether the first character that is not skipped is a letter with case. -/
def meetsCased (t : Text) : Bool :=
  match t.dropWhile (inRanges ignorableRanges) with
  | [] => false
  | c :: _ => inRanges casedRanges c

/-- The lower-case form of `t`, where `before` holds the characters to its left, nearest
first. -/
def lowerAfter (before : Text) : Text → Text
  | [] => []
  | c :: r =>
    (if c = 'Σ' then if meetsCased before && !meetsCased r then ['ς'] else ['σ']
     else lowerChar c) ++ lowerAfter (c :: before) r

/-- **The lower-case form of a text.** -/
def lower (t : Text) : Text := lowerAfter [] t

/-- **A blank**: a character with the property `White_Space`. -/
def isBlank (c : Char) : Bool :=
  let n := c.toNat
  (9 ≤ n && n ≤ 13) || n == 0x20 || n == 0x85 || n == 0xA0 || n == 0x1680 ||
    (0x2000 ≤ n && n ≤ 0x200A) || n == 0x2028 || n == 0x2029 || n == 0x202F ||
    n == 0x205F || n == 0x3000

/-- The text without outer blanks. -/
def trimBlank (t : Text) : Text := trim isBlank t

end ModuleHooks.Text
