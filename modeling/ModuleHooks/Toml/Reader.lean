import ModuleHooks.Text.Utf8
/-!
# Readers

A reader takes characters from the front of an input. When it cannot go on, it says
whether that is final. A failure that is not final lets an alternative try at the same
place; a final one ends the whole document. On its way out a failure collects what was
being read (`labelled`) and what would have been accepted (`expecting`).

The position of a failure is the place where the reader stood when it gave up, which is
why `alternatively` puts the input back before a second attempt but not after it.
-/

namespace ModuleHooks.Toml

/-- What is left of the document, and how much is not. -/
structure Input where
  /-- The number of characters already read. -/
  position : Nat
  /-- What is left. -/
  rest : Text
  deriving DecidableEq, Repr

/-- **What is wrong.** -/
structure Complaint where
  /-- What was being read, innermost first. -/
  labels : List Text := []
  /-- What would have been accepted, innermost first. -/
  expected : List Text := []
  /-- The reason, when the characters were fine but what they mean is not. -/
  cause : Option Text := none
  deriving DecidableEq, Repr

/-- The wording of what is wrong. -/
def Complaint.message (c : Complaint) : Text :=
  let label : List Text := (c.labels.head?.map fun l => ("invalid " : Text) ++ l).toList
  let expected : List Text :=
    if c.expected = [] then [] else [("expected " : Text) ++ Text.join ", " c.expected]
  Text.join "\n" (label ++ expected ++ c.cause.toList)

/-- **What comes of reading.** -/
inductive Step (α : Type) where
  | ok (a : α) (next : Input)
  | failed (final : Bool) (why : Complaint) (place : Input)
  deriving Repr

/-- **A reader.** -/
abbrev Reader (α : Type) := Input → Step α

namespace Reader

/-- Reads nothing. -/
def give {α : Type} (a : α) : Reader α := fun i => .ok a i

/-- One reader after another. -/
def andThen {α β : Type} (p : Reader α) (f : α → Reader β) : Reader β := fun i =>
  match p i with
  | .ok a next => f a next
  | .failed final why place => .failed final why place

/-- Gives up. -/
def fail {α : Type} : Reader α := fun i => .failed false {} i

/-- A reader followed by another whose result counts. -/
def thenRead {α β : Type} (p : Reader α) (q : Reader β) : Reader β := andThen p fun _ => q

/-- A reader followed by another whose result does not count. -/
def before {α β : Type} (p : Reader α) (q : Reader β) : Reader α :=
  andThen p fun a => andThen q fun _ => give a

/-- A function applied to the result. -/
def map {α β : Type} (f : α → β) (p : Reader α) : Reader β := andThen p fun a => give (f a)

/-- A reader whose failures are final. -/
def committed {α : Type} (p : Reader α) : Reader α := fun i =>
  match p i with
  | .failed _ why place => .failed true why place
  | r => r

/-- Adds to a failure what was being read. -/
def labelled {α : Type} (label : Text) (p : Reader α) : Reader α := fun i =>
  match p i with
  | .failed final why place =>
    .failed final { why with labels := why.labels ++ [label] } place
  | r => r

/-- Adds to a failure what would have been accepted. -/
def expecting {α : Type} (what : List Text) (p : Reader α) : Reader α := fun i =>
  match p i with
  | .failed final why place =>
    .failed final { why with expected := why.expected ++ what } place
  | r => r

/-- Tries another reader at the same place. -/
def alternatively {α : Type} (p q : Reader α) : Reader α := fun i =>
  match p i with
  | .failed false _ _ => q i
  | r => r

/-- A reader that may find nothing. -/
def perhaps {α : Type} (p : Reader α) : Reader (Option α) := fun i =>
  match p i with
  | .ok a next => .ok (some a) next
  | .failed false _ _ => .ok none i
  | .failed true why place => .failed true why place

/-- The result is checked; if it is refused, with a reason, the failure stands where the
reader began. -/
def checked {α β : Type} (f : α → Except Text β) (p : Reader α) : Reader β := fun i =>
  match p i with
  | .ok a next =>
    match f a with
    | .ok b => .ok b next
    | .error cause => .failed false { cause := some cause } i
  | .failed final why place => .failed final why place

/-- A reader as often as it goes on, at most so many times. -/
def repeated {α : Type} (p : Reader α) : Nat → Reader (List α)
  | 0, i => .ok [] i
  | n + 1, i =>
    match p i with
    | .ok a next =>
      match repeated p n next with
      | .ok l last => .ok (a :: l) last
      | .failed final why place => .failed final why place
    | .failed false _ _ => .ok [] i
    | .failed true why place => .failed true why place

/-- **A reader as often as it goes on.** -/
def many {α : Type} (p : Reader α) : Reader (List α) := fun i =>
  repeated p (i.rest.length + 1) i

/-- A reader as often as it goes on, with separators between. A separator that nothing
follows is not taken. -/
def separated {α β : Type} (p : Reader α) (sep : Reader β) : Reader (List α) :=
  andThen p fun a => andThen (many (thenRead sep p)) fun l => give (a :: l)

/-- One character that satisfies a test. -/
def oneThat (test : Char → Bool) : Reader Char := fun i =>
  match i.rest with
  | c :: r => if test c then .ok c ⟨i.position + 1, r⟩ else .failed false {} i
  | [] => .failed false {} i

/-- A given character. -/
def char (c : Char) : Reader Char := oneThat (· == c)

/-- A given text. -/
def literal (t : Text) : Reader Text := fun i =>
  match Text.stripStart? t i.rest with
  | some r => .ok t ⟨i.position + t.length, r⟩
  | none => .failed false {} i

/-- All characters that satisfy a test, from the front. -/
def takeAll (test : Char → Bool) : Reader Text := fun i =>
  let t := i.rest.takeWhile test
  .ok t ⟨i.position + t.length, i.rest.dropWhile test⟩

/-- All characters that satisfy a test, of which there is at least one. -/
def takeSome (test : Char → Bool) : Reader Text := fun i =>
  match i.rest.takeWhile test with
  | [] => .failed false {} i
  | t => .ok t ⟨i.position + t.length, i.rest.dropWhile test⟩

/-- So many characters that satisfy a test. -/
def takeExactly (n : Nat) (test : Char → Bool) : Reader Text := fun i =>
  let t := (i.rest.take n).takeWhile test
  if t.length = n then .ok t ⟨i.position + n, i.rest.drop n⟩ else .failed false {} i

/-- The end of the document. -/
def atEnd : Reader Unit := fun i =>
  match i.rest with
  | [] => .ok () i
  | _ => .failed false {} i

/-- Looks at what follows without taking it. -/
def look (p : Text → Bool) : Reader Unit := fun i =>
  if p i.rest then .ok () i else .failed false {} i

/-- A reader chosen by the next character; there must be one. -/
def choose {α : Type} (f : Char → Reader α) : Reader α := fun i =>
  match i.rest with
  | c :: _ => f c i
  | [] => .failed false {} i

/-- A result with the positions where it begins and ends. -/
def placed {α : Type} (p : Reader α) : Reader (α × Nat × Nat) := fun i =>
  match p i with
  | .ok a next => .ok (a, i.position, next.position) next
  | .failed final why place => .failed final why place

/-- The text that a reader takes. -/
def taken {α : Type} (p : Reader α) : Reader Text := fun i =>
  match p i with
  | .ok _ next => .ok (i.rest.take (next.position - i.position)) next
  | .failed final why place => .failed final why place

end Reader

end ModuleHooks.Toml
