import ModuleHooks.Sass.Function.Basic
/-!
# Functions of texts

Characters are counted from one, and from the end below nought.
-/

namespace ModuleHooks.Sass.Function

open Sass.Builtin

/-- A whole number without units. -/
def wholeArg (name : Text) (v : Value) : Builtin Int := do
  let n ← asNumber name v
  unitless name n
  asInt name n

/-- How many characters stand before the one that a number means. -/
def place (i : Int) (length : Nat) : Int :=
  if i = 0 then 0 else if i > 0 then min (i - 1) length else length + i

/-- A position without units. A number that is none is told without the name of the
argument. -/
def position (name : Text) (v : Value) : Builtin Int := do
  let n ← asNumber name v
  unitless name n
  match nearlyInt? n.value with
  | some i => return i
  | none => fail (notWhole n.value)

/-- A part of a text. -/
def textSlice : Builtin Value := do
  atMost 3
  let (t, q) ← text 0 "string"
  let first ← position "start-at" (← arg 1 "start-at")
  let last ← position "end-at" (← argOr 2 "end-at" (.number (.ofInt (-1))))
  let length := t.length
  let start := (max 0 (place first length)).toNat
  let stop := place last length
  let stop := if stop = length then stop - 1 else stop
  if last = 0 || stop < start then return .text [] q
  else return .text ((t.drop start).take (stop.toNat + 1 - start)) q

/-- The position of a text in another one. -/
def textIndex : Builtin Value := do
  atMost 2
  let (t, _) ← text 0 "string"
  let (s, _) ← text 1 "substring"
  match Text.splitFirst? s t with
  | some (before, _) => return .number (.ofInt (before.length + 1))
  | none => return .null

/-- A text put into another one. -/
def textInsert : Builtin Value := do
  atMost 3
  let (t, q) ← text 0 "string"
  let (s, _) ← text 1 "insert"
  let i ← wholeArg "index" (← arg 2 "index")
  let i := if i < 0 then max 0 (t.length + i + 2) else i
  let index := (max 0 (place i t.length)).toNat
  return .text (t.take index ++ s ++ t.drop index) q

/-- The pieces of a text between the places where another one stands, with no more cuts than
a number, if there is one. -/
def cut (separator : Text) : Nat → Text → List Text
  | 0, t => [t]
  | n + 1, t =>
    match Text.splitFirst? separator t with
    | none => [t]
    | some (before, after) => before :: cut separator n after

/-- The pieces of a text where nothing stands between them: its characters, with nothing
before the first one and nothing after the last one. -/
def cutEverywhere : Nat → Text → List Text
  | 0, t => [t]
  | n + 1, t => [] :: characters n t
where
  /-- Characters one by one, and the rest. -/
  characters : Nat → Text → List Text
    | 0, t => [t]
    | _, [] => [[]]
    | n + 1, c :: r => [c] :: characters n r

/-- A text in pieces. -/
def textSplit : Builtin Value := do
  atMost 3
  let (t, _) ← text 0 "string"
  let (separator, _) ← text 1 "separator"
  let limit ←
    match ← argOr 2 "limit" .null with
    | .null => pure (t.length + 2)
    | v => do
      let i ← asInt "limit" (← asNumber "limit" v)
      if i < 1 then failArg "limit" ("Must be 1 or greater, was ".toList ++ Text.ofInt i ++ ['.'])
      else pure i.toNat
  let pieces := if separator = [] then cutEverywhere limit t else cut separator limit t
  return .list (pieces.map fun p => .text p true) .comma true

/-- **The functions of texts**, by their names in their module. -/
def texts : Functions :=
  [("slice", textSlice), ("index", textIndex), ("insert", textInsert),
    ("split", textSplit),
    ("to-upper-case", do
      atMost 1
      let (t, q) ← text 0 "string"
      return .text (Text.upperAscii t) q),
    ("to-lower-case", do
      atMost 1
      let (t, q) ← text 0 "string"
      return .text (Text.lowerAscii t) q),
    ("length", do
      atMost 1
      return .number (.ofInt (← text 0 "string").1.length)),
    ("quote", do
      atMost 1
      return .text (← text 0 "string").1 true),
    ("unquote", do
      atMost 1
      return .word (← text 0 "string").1)]

end ModuleHooks.Sass.Function
