import ModuleHooks.Text.Basic
/-!
# Tables of code points

A property of characters is a table of runs: stretches of neighbouring code points of
which the same holds. A character is looked up by halving the window in which its run
must lie.

Tables are written down as lines of words, each of them the length of a run in
hexadecimal digits and what holds of it. `ofSetWords` reads the words of a set, in which
runs outside and inside take turns, `ofClassWords` those of a property with values.
-/

namespace ModuleHooks.CodePoints

/-- **A table of code points**: the first code point of each run, in ascending order,
with what holds of the run. A run reaches up to the next one. -/
abbrev Table (α : Type) := Array (Nat × α)

/-! ## Looking up -/

/-- The last place of the window from `lo` to before `hi` at which a number that ascends
with the place is at most `n`, given that this is so at `lo`. -/
def lastAtMost (key : Nat → Nat) (n lo hi : Nat) : Nat :=
  if lo + 1 < hi then
    let mid := (lo + hi) / 2
    if key mid ≤ n then lastAtMost key n mid hi else lastAtMost key n lo mid
  else lo
termination_by hi - lo

/-- The first code point of the run that holds `n`, and what the table says of it. -/
def run? {α : Type} (table : Table α) (n : Nat) : Option (Nat × α) :=
  (table[lastAtMost (fun i => (table[i]?.map (·.1)).getD 0) n 0 table.size]?).bind fun r =>
    if r.1 ≤ n then some r else none

/-- **What a table says of a character.** -/
def value? {α : Type} (table : Table α) (c : Char) : Option α :=
  (run? table c.toNat).map (·.2)

/-- **Whether a set holds a character.** -/
def holds (set : Table Bool) (c : Char) : Bool := (value? set c).getD false

/-! ## Reading tables -/

/-- The words of lines. -/
def words (lines : List String) : List Text :=
  lines.flatMap fun l => Text.splitOn ' ' l.toList

/-- The table of runs of which the lengths are known, from the code point `first` on. -/
def ofLengths {α : Type} (first : Nat) : List (Nat × α) → List (Nat × α)
  | [] => []
  | (len, value) :: r => (first, value) :: ofLengths (first + len) r

/-- The runs of a set, outside and inside by turns. -/
def turns (inside : Bool) : List Text → List (Nat × Bool)
  | [] => [(0, inside)]
  | w :: r => (Text.hexNumber w, inside) :: turns (!inside) r

/-- **The set that lines describe**: the lengths of its gaps and runs by turns. -/
def ofSetWords (lines : List String) : Table Bool :=
  (ofLengths 0 (turns false (words lines))).toArray

/-- The parts of a word before and after a mark; without the mark nothing is after it. -/
def halves (mark : Char) (word : Text) : Text × Text :=
  (word.takeWhile (· != mark), (word.dropWhile (· != mark)).drop 1)

/-- **The property that lines describe**: for each run its length and, after a colon, the
name of its value. -/
def ofClassWords {α : Type} (named : Text → α) (lines : List String) : Table α :=
  (ofLengths 0 ((words lines).map fun w =>
    let (len, name) := halves ':' w
    (Text.hexNumber len, named name))).toArray

end ModuleHooks.CodePoints
