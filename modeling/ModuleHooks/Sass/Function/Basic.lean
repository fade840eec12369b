import ModuleHooks.Sass.Lot
import ModuleHooks.Sass.Value
/-!
# Functions that are always there

A function gets its arguments by position and by name, and says itself which ones it
needs. What is wrong with an argument is told at the whole call. A function may draw
numbers by lot.
-/

namespace ModuleHooks.Sass

/-- Names with commas between them, and a word before the last one. -/
def listNames (word : Text) (names : List Text) : Text :=
  match names.reverse with
  | last :: before :: more =>
    Text.join ", " (before :: more).reverse ++ ' ' :: word ++ ' ' :: last
  | _ => names.headD []

/-- What is said about arguments whose names are unknown. -/
def unknownNames (names : List Text) : Text :=
  (if names.length = 1 then "No argument named " else "No arguments named ").toList
    ++ listNames "or" (names.map ('$' :: ·)) ++ ['.']

/-- **The arguments that a call was given.** -/
structure Given where
  /-- By position. -/
  positional : List Value
  /-- By name. -/
  named : List (Text × Value) := []
  /-- What stood between the items of a list that was given as arguments. -/
  separator : Separator := .undecided
  /-- The call. -/
  span : Span

/-- **A function that is always there.** -/
abbrev Builtin := ReaderT Given (ExceptT Fault Lot)

namespace Builtin

/-- Something is wrong with the call. -/
def fail {α : Type} (message : Text) : Builtin α := do
  throw (.misplaced message (← read).span)

/-- What is told at the whole call if something is wrong with it. -/
def atCall {α : Type} (r : Span → Except Fault α) : Builtin α := do
  match r (← read).span with
  | .ok a => return a
  | .error f => throw f

/-- A number that is drawn by lot. -/
def draw : Builtin Nat := fun _ => ExceptT.lift (Lot.draw Lot.done)

/-- An argument, if it was given. -/
def arg? (i : Nat) (name : Text) : Builtin (Option Value) := do
  let g ← read
  return (Text.lookup? name g.named).or g.positional[i]?

/-- An argument that has to be given. -/
def arg (i : Nat) (name : Text) : Builtin Value := do
  match ← arg? i name with
  | some v => return v
  | none => fail ("Missing argument $".toList ++ name ++ ['.'])

/-- An argument, or another value in its place. -/
def argOr (i : Nat) (name : Text) (v : Value) : Builtin Value := return (← arg? i name).getD v

/-- How many arguments were given. -/
def count : Builtin Nat := do
  let g ← read
  return g.positional.length + g.named.length

/-- No more arguments may be given than this. -/
def atMost (n : Nat) : Builtin Unit := do
  let m ← count
  if m > n then
    fail ("Only ".toList ++ Text.ofNat n ++ " argument".toList ++ (if n = 1 then [] else ['s'])
      ++ " allowed, but ".toList ++ Text.ofNat m
      ++ (if m = 1 then " was passed." else " were passed.").toList)

/-- No fewer arguments may be given than one. -/
def atLeastOne : Builtin Unit := do
  if (← count) = 0 then fail "At least one argument must be passed."

/-- **The arguments that are left** after some have been taken, each of them by its name or,
if it has none, by its position. No other argument may have a name. -/
def others (taken : List (Nat × Text)) : Builtin (List Value) := do
  let g ← read
  match g.named.find? fun n => !(taken.any fun t => t.2 == n.1) with
  | some (n, _) => fail ("No argument named $".toList ++ n ++ ['.'])
  | none =>
    let isTaken (i : Nat) : Bool :=
      taken.any fun t => t.1 == i && (Text.lookup? t.2 g.named).isNone
    return g.positional.zipIdx.filterMap fun (v, i) => if isTaken i then none else some v

/-- All arguments by position; none may have a name. -/
def all : Builtin (List Value) := others []

/-- Something is wrong with an argument. -/
def failArg {α : Type} (name message : Text) : Builtin α :=
  fail ('$' :: name ++ ": ".toList ++ message)

/-- A value has to be a number. -/
def asNumber (name : Text) : Value → Builtin Number
  | .number n => return n
  | v => failArg name (v.inspect ++ " is not a number.".toList)

/-- A value has to be a colour. -/
def asColor (name : Text) : Value → Builtin Color
  | .color c => return c
  | v => failArg name (v.inspect ++ " is not a color.".toList)

/-- A value has to be a text. -/
def asText (name : Text) : Value → Builtin (Text × Bool)
  | .text t q => return (t, q)
  | v => failArg name (v.inspect ++ " is not a string.".toList)

/-- A value has to be a map. -/
def asMap (name : Text) (v : Value) : Builtin (List (Value × Value)) :=
  match v.entries? with
  | some es => return es
  | none => failArg name (v.inspect ++ " is not a map.".toList)

/-- A number argument. -/
def number (i : Nat) (name : Text) : Builtin Number := do asNumber name (← arg i name)

/-- A colour argument. -/
def color (i : Nat) (name : Text) : Builtin Color := do asColor name (← arg i name)

/-- A text argument. -/
def text (i : Nat) (name : Text) : Builtin (Text × Bool) := do asText name (← arg i name)

/-- A map argument. -/
def map (i : Nat) (name : Text) : Builtin (List (Value × Value)) := do asMap name (← arg i name)

/-- A number may have no units. -/
def unitless (name : Text) (n : Number) : Builtin Unit :=
  if n.units.isNone then return ()
  else failArg name ("Expected ".toList ++ n.write ++ " to have no units.".toList)

/-- A number has to be whole. It is told in full, without its units. -/
def asInt (name : Text) (n : Number) : Builtin Int :=
  match nearlyInt? n.value with
  | some i => return i
  | none => failArg name (notWhole n.value)

/-- A number has to be in a range, which is told with some units. -/
def inRangeOf (units : Units) (name : Text) (low high : Int) (n : Number) : Builtin Binary := do
  let u := units.write
  if nearlyLe (whole low) n.value && nearlyLe n.value (whole high) then return n.value
  else
    failArg name ("Expected ".toList ++ n.write ++ " to be within ".toList ++ Text.ofInt low ++ u
      ++ " and ".toList ++ Text.ofInt high ++ u ++ ['.'])

/-- A number has to be in a range, which is told with the number's own units. -/
def inRange (name : Text) (low high : Int) (n : Number) : Builtin Binary :=
  inRangeOf n.units name low high n

/-- A number has to have one unit and no other. -/
def inUnit (unit name : Text) (n : Number) : Builtin Unit :=
  if n.units == Units.single unit then return ()
  else failArg name ("Expected ".toList ++ n.write ++ " to have unit \"".toList ++ unit ++ "\".".toList)

/-- A value as a part of a style sheet. -/
def css (v : Value) : Builtin Text := atCall v.css

/-- A call of a function of the browser. -/
def browserCall (name : Text) (args : List Value) : Builtin Value := do
  return .word (name ++ '(' :: Text.join ", " (← args.mapM css) ++ [')'])

/-- Whether a value is left to the browser, because it is not known before. -/
def isSpecial : Value → Bool
  | .calculation _ => true
  | .text t false =>
    (List.map String.toList ["calc(", "var(", "env(", "min(", "max(", "clamp("]).any
      fun p => Text.startsWith t p
  | _ => false

/-- Whether a value is a variable of the browser. -/
def isVar : Value → Bool
  | .text t false => t.length ≥ 8 && Text.startsWith t "var("
  | _ => false

end Builtin

/-- **A table of functions** by their names. -/
abbrev Functions := List (String × Builtin Value)

end ModuleHooks.Sass
