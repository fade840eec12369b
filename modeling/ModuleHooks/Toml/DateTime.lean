import ModuleHooks.Binary.Decimal
/-!
# Dates and times

A date, a time of day, or both, the latter with an offset from universal time or without. There is
one normal form, in which a document is told what it says: a `T` in front of the time, a capital
`Z`, and a fraction of at most nine digits without zeros at its end.
-/

namespace ModuleHooks.Toml

/-- A day of the calendar. -/
structure Date where
  year : Nat
  month : Nat
  day : Nat
  deriving DecidableEq, Repr

/-- A time of day. -/
structure Time where
  hour : Nat
  minute : Nat
  second : Nat
  nanosecond : Nat
  deriving DecidableEq, Repr

/-- How far a time is off from universal time. -/
inductive Offset where
  | utc
  | minutes (n : Int)
  deriving DecidableEq, Repr

/-- **A date, a time of day, or both.** -/
structure DateTime where
  date : Option Date := none
  time : Option Time := none
  offset : Option Offset := none
  deriving DecidableEq, Repr

/-- The number of days of a month. -/
def daysOf (year month : Nat) : Nat :=
  let leap := year % 4 = 0 && (year % 100 ≠ 0 || year % 400 = 0)
  if month = 2 then if leap then 29 else 28
  else if month = 4 || month = 6 || month = 9 || month = 11 then 30
  else 31

/-- The nanoseconds that the digits of a fraction mean. Digits after the ninth do not count. -/
def nanosecondsOf (fraction : Text) : Nat :=
  Binary.digitsValue ((fraction ++ List.replicate 9 '0').take 9)

/-- The offset of so many hours and minutes. -/
def Offset.ofSign (sign : Char) (hours minutes : Nat) : Offset :=
  let n : Int := hours * 60 + minutes
  .minutes (if sign = '-' then -n else n)

/-! ## The normal form -/

/-- A number with so many digits at least. -/
def paddedNumber (width n : Nat) : Text :=
  let digits := Text.ofNat n
  List.replicate (width - digits.length) '0' ++ digits

namespace DateTime

/-- A date as it is written. -/
def renderDate (d : Date) : Text :=
  paddedNumber 4 d.year ++ '-' :: paddedNumber 2 d.month ++ '-' :: paddedNumber 2 d.day

/-- A time as it is written. -/
def renderTime (t : Time) : Text :=
  let fraction :=
    if t.nanosecond = 0 then []
    else '.' :: Text.trimEnd (· == '0') (paddedNumber 9 t.nanosecond)
  paddedNumber 2 t.hour ++ ':' :: paddedNumber 2 t.minute ++ ':' :: paddedNumber 2 t.second ++
    fraction

/-- An offset as it is written. -/
def renderOffset : Offset → Text
  | .utc => "Z"
  | .minutes n =>
    (if n < 0 then '-' else '+') :: paddedNumber 2 (n.natAbs / 60) ++
      ':' :: paddedNumber 2 (n.natAbs % 60)

/-- **The normal form** of a date, a time or both. -/
def render (d : DateTime) : Text :=
  let date := (d.date.map renderDate).getD []
  let time :=
    match d.time with
    | none => []
    | some t => (if d.date.isSome then "T".toList else []) ++ renderTime t
  date ++ time ++ (d.offset.map renderOffset).getD []

/-! ## Reading a text -/

/-- So many digits in front of a text, and what follows them. -/
def digits? (n : Nat) (t : Text) : Option (Nat × Text) :=
  let front := t.take n
  if front.length = n ∧ front.all Char.isDigit = true then
    some (Binary.digitsValue front, t.drop n)
  else none

/-- What follows a character that must stand in front of a text. -/
def after? (c : Char) (t : Text) : Option Text := Text.stripStart? [c] t

/-- A date in front of a text. -/
def date? (t : Text) : Option (Date × Text) := do
  let (year, t) ← digits? 4 t
  let (month, t) ← digits? 2 (← after? '-' t)
  let (day, t) ← digits? 2 (← after? '-' t)
  if 1 ≤ month ∧ month ≤ 12 ∧ 1 ≤ day ∧ day ≤ daysOf year month then
    some (⟨year, month, day⟩, t)
  else none

/-- The fraction of a second in front of a text. A point must have digits behind it. -/
def fraction? : Text → Option (Nat × Text)
  | '.' :: t =>
    match t.takeWhile Char.isDigit with
    | [] => none
    | ds => some (nanosecondsOf ds, t.dropWhile Char.isDigit)
  | t => some (0, t)

/-- A time in front of a text. Midnight may be the end of a day. -/
def time? (t : Text) : Option (Time × Text) := do
  let (hour, t) ← digits? 2 t
  let (minute, t) ← digits? 2 (← after? ':' t)
  let (second, t) ← digits? 2 (← after? ':' t)
  let (nanosecond, t) ← fraction? t
  if hour ≤ 24 ∧ minute ≤ 59 ∧ second ≤ 60 then some (⟨hour, minute, second, nanosecond⟩, t)
  else none

/-- The offset that the rest of a text is; there need not be one. -/
def offset? : Text → Option (Option Offset)
  | [] => some none
  | ['Z'] => some (some .utc)
  | ['z'] => some (some .utc)
  | sign :: t =>
    if sign = '+' ∨ sign = '-' then do
      let (hours, t) ← digits? 2 t
      let (minutes, t) ← digits? 2 (← after? ':' t)
      if t = [] ∧ hours * 60 + minutes ≤ 24 * 60 then some (some (.ofSign sign hours minutes))
      else none
    else none

/-- What may stand between a date and a time. -/
def isBetween (c : Char) : Bool := c == 'T' || c == 't' || c == ' '

/-- **The date, the time or both that a text is.** -/
def parse? (t : Text) : Option DateTime :=
  match t with
  | _ :: _ :: ':' :: _ =>
    match time? t with
    | some (time, []) => some { time := some time }
    | _ => none
  | _ =>
    match date? t with
    | none => none
    | some (date, []) => some { date := some date }
    | some (date, c :: rest) =>
      if isBetween c then do
        let (time, rest) ← time? rest
        let offset ← offset? rest
        some { date := some date, time := some time, offset }
      else none

end DateTime

end ModuleHooks.Toml
