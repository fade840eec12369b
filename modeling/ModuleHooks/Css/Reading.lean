import ModuleHooks.Css.Fault
/-!
# Reading components

A reading takes what it wants from the front of a stream and gives a result, or a fault.
A reading that fails has taken nothing, so another one can be tried in its place.

Two rules say where a fault is: where a certain kind of token was expected, the place
before it, white space included, is meant; elsewhere the place right after the token that
was found.
-/

namespace ModuleHooks.Css

/-- **A reading.** -/
abbrev Reading := StateT Stream (Except Fault)

namespace Reading

/-- A fault at a place. -/
def fail {α : Type} (m : Mistake) (p : Place) : Reading α := fun _ => .error ⟨m, p⟩

/-- Where the reading stands. -/
def here : Reading Place := fun s => .ok (s.here, s)

/-- A fault where the reading stands. -/
def failHere {α : Type} (m : Mistake) : Reading α := fun s => .error ⟨m, s.here⟩

/-- A fault right after a component that was taken. -/
def failAfter {α : Type} (c : Component) (m : Mistake) : Reading α := fun s =>
  .error ⟨m, Stream.after c s⟩

/-- A component that has no business here, with the fault right after it. -/
def unexpected {α : Type} (c : Component) : Reading α := failAfter c (.unexpected c.head)

/-- The next component that is not blank. -/
def next : Reading Component := fun s =>
  match s.next? with
  | some x => .ok x
  | none => .error ⟨.endOfInput, s.finish⟩

/-- The next component, white space included. -/
def nextSpaced : Reading Component := fun s =>
  match s.nextSpaced? with
  | some x => .ok x
  | none => .error ⟨.endOfInput, s.finish⟩

/-- The next component that is not blank, left where it is. -/
def peek? : Reading (Option Component) := fun s => .ok (s.next?.map (·.1), s)

/-- The next component, white space included, left where it is. -/
def peekSpaced? : Reading (Option Component) := fun s => .ok (s.nextSpaced?.map (·.1), s)

/-- Passes blanks. -/
def skipBlanks : Reading Unit := fun s => .ok ((), s.skipBlanks)

/-- Whether nothing but blanks is left. -/
def isDone : Reading Bool := fun s => .ok (s.isDone, s)

/-- What a reading gives, if it gives something. -/
def attempt {α : Type} (r : Reading α) : Reading (Option α) := fun s =>
  match r s with
  | .ok (a, s) => .ok (some a, s)
  | .error _ => .ok (none, s)

/-- The second reading where the first one fails. -/
def orTry {α : Type} (r q : Reading α) : Reading α := fun s =>
  match r s with
  | .ok x => .ok x
  | .error _ => q s

/-- Nothing but blanks may be left. -/
def finished : Reading Unit := fun s =>
  match s.next? with
  | some (c, _) => .error ⟨.unexpected c.head, s.here⟩
  | none => .ok ((), s)

/-- A component that satisfies a test. -/
def expect {α : Type} (f : Component → Option α) : Reading α := fun s =>
  match s.next? with
  | some (c, r) =>
    match f c with
    | some a => .ok (a, r)
    | none => .error ⟨.unexpected c.head, s.here⟩
  | none => .error ⟨.endOfInput, s.finish⟩

/-- An identifier. -/
def ident : Reading Text := expect Stream.identOf?

/-- An identifier of a given name, in any case. -/
def keyword (name : Text) : Reading Unit :=
  expect fun c =>
    match Stream.identOf? c with
    | some n => if Text.eqIgnoringCase n name then some () else none
    | none => none

/-- One of some keywords, in lower case. -/
def keywordOf (names : List Text) : Reading Text :=
  expect fun c =>
    match Stream.identOf? c with
    | some n =>
      let n := Text.lowerAscii n
      if List.elem n names then some n else none
    | none => none

/-- The names that no identifier of an author may have. -/
def reservedNames : List Text :=
  List.map String.toList ["initial", "inherit", "unset", "default", "revert", "revert-layer"]

/-- An identifier that an author chose. -/
def authorIdent : Reading Text :=
  expect fun c =>
    match Stream.identOf? c with
    | some n => if List.elem (Text.lowerAscii n) reservedNames then none else some n
    | none => none

/-- An identifier with two hyphens in front. -/
def dashedIdent : Reading Text :=
  expect fun c =>
    match Stream.identOf? c with
    | some n => if Text.startsWith n "--" then some n else none
    | none => none

/-- A string. -/
def string : Reading Text :=
  expect fun c =>
    match c.head with
    | .string t => some t
    | _ => none

/-- A delimiter. -/
def delim (d : Char) : Reading Unit :=
  expect fun c => if Stream.isDelim d c then some () else none

/-- A comma. -/
def comma : Reading Unit := expect fun c => if Stream.isComma c then some () else none

/-- A colon. -/
def colon : Reading Unit := expect fun c => if c.head == .colon then some () else none

/-- A function, whole. -/
def function : Reading (Text × Component) :=
  expect fun c =>
    match c.head with
    | .function name => some (name, c)
    | _ => none

/-- A function of a given name, in any case. -/
def functionOf (name : Text) : Reading Component :=
  expect fun c =>
    match c.head with
    | .function n => if Text.eqIgnoringCase n name then some c else none
    | _ => none

/-- A round bracket. -/
def roundBlock : Reading Component :=
  expect fun c => if c.head == .opening .round then some c else none

/-- A reading of all that is in a bracket. -/
def inside {α : Type} (c : Component) (r : Reading α) : Reading α := fun s =>
  match (do let a ← r; finished; return a : Reading α) (Stream.inside c) with
  | .ok (a, _) => .ok (a, s)
  | .error f => .error f

/-- A reading of all up to the first component that satisfies a test. -/
def upTo {α : Type} (stop : Component → Bool) (r : Reading α) : Reading α := fun s =>
  let (front, back) := s.splitAt stop
  match (do let a ← r; finished; return a : Reading α) front with
  | .ok (a, _) => .ok (a, back)
  | .error f => .error f

/-- What is left without the front up to the first component that satisfies a test. -/
def skipTo (stop : Component → Bool) : Reading Unit := fun s => .ok ((), (s.splitAt stop).2)

/-- Readings one after the other for as long as they succeed. The first argument bounds
their number. -/
def many {α : Type} (r : Reading α) : Nat → Reading (List α)
  | 0 => return []
  | n + 1 => do
    match ← attempt r with
    | some a => return a :: (← many r n)
    | none => return []

/-- As many readings as the stream has components. -/
def repeated {α : Type} (r : Reading α) : Reading (List α) := fun s =>
  many r (s.rest.length + 1) s

/-- Readings between commas, each of all that is between two commas without the blanks at
its front. The first argument bounds their number. -/
def commaSeparatedUpTo {α : Type} (r : Reading α) : Nat → Reading (List α)
  | 0 => return []
  | n + 1 => do
    skipBlanks
    let a ← upTo Stream.isComma r
    match ← attempt comma with
    | some _ => return a :: (← commaSeparatedUpTo r n)
    | none => return [a]

/-- **Readings between commas.** -/
def commaSeparated {α : Type} (r : Reading α) : Reading (List α) := fun s =>
  commaSeparatedUpTo r (s.rest.length + 1) s

end Reading

end ModuleHooks.Css
