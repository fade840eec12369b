import ModuleHooks.Css.TokenList
/-!
# Values

How values of properties are read and written again. A reading of a value takes it in
any of its notations and gives the best one: parts in the order in which they are
written, without those that say what is so anyway.
-/

namespace ModuleHooks.Css

/-- **A reading of a value**, which gives what is written for it. -/
abbrev ValueReading := Reading Written

namespace Value

open Reading

/-- A text as a value. -/
def plain (r : Reading Text) : ValueReading := do return Written.text (← r)

/-- One of some keywords. -/
def keywords (names : List String) : ValueReading :=
  plain (keywordOf (names.map String.toList))

/-- One reading or the other. -/
def either (r q : ValueReading) : ValueReading := orTry r q

/-- A colour. -/
def color : ValueReading := plain do return (← Reading.color).write

/-- A length or a percentage. -/
def lengthPercentage : ValueReading := plain Reading.lengthPercentage

/-- Whether a text is that of a length or a percentage of nought. -/
def isNought (t : Text) : Bool := t = ['0'] || t = ['0', '%']

/-- A length. -/
def length : ValueReading := plain Reading.length

/-- A length or a percentage, or one of some keywords. -/
def lengthOr (names : List String) : ValueReading := either (keywords names) lengthPercentage

/-- A duration. -/
def time : ValueReading := plain Reading.time

/-- A number. -/
def number : ValueReading := plain do return writeNumber (← Reading.number)

/-- A percentage. -/
def percentage : ValueReading :=
  plain do return (← simpleQuantity Dimension.percentage).write false

/-- A number or a percentage: the number that it is, and how it is written. -/
def share : Reading (Binary × Text) :=
  orTry (do let x ← Reading.number; return (x, writeNumber x)) do
    let a ← simpleQuantity Dimension.percentage
    return (a.value, a.write false)

/-- A number or a percentage. -/
def numberOrPercentage : ValueReading := plain do return (← share).2

/-- A number or a length. -/
def numberOrLength : ValueReading := either number length

/-- A number, or a percentage as the number that it is. -/
def opacity : ValueReading := plain do return writeNumber (← Reading.numberOrPercentage)

/-- A whole number. -/
def integer : ValueReading := plain do return Text.ofInt (← Reading.integer)

/-- A ratio of two numbers, written; nothing is said of a divisor of one. -/
def writeRatio (a b : Binary) : Text :=
  if Binary.eq b (num 1) then writeNumber a else writeNumber a ++ " / ".toList ++ writeNumber b

/-- A ratio of two numbers. -/
def ratio : Reading Text := do
  let a ← Reading.number
  match ← attempt (delim '/') with
  | some _ => return writeRatio a (← Reading.number)
  | none => return writeNumber a

/-- A URL. -/
def url : Reading Text := do
  let c ← next
  match c.head with
  | .url t => return t
  | .function name =>
    if Text.eqIgnoringCase name "url" then inside c string else unexpected c
  | _ => unexpected c

/-- A URL, written. -/
def urlWritten : ValueReading := plain do return writeUrl (← url)

/-- A name that an author chose, local to the stylesheet. -/
def authorName : ValueReading := do return Written.ofLocal (← authorIdent)

/-- `none`, or names that an author chose. -/
def authorNames : ValueReading :=
  either (keywords ["none"]) do
    let first ← authorName
    return Written.joined " " (first :: (← repeated authorName))

/-- Values between commas. -/
def list (r : ValueReading) : ValueReading := do
  return Written.joined ", " (← commaSeparated r)

/-- Values one after the other. -/
def sequence (r : ValueReading) : ValueReading := do
  let first ← r
  return Written.joined " " (first :: (← repeated r))

/-! ## Parts -/

/-- A value for one or two axes. -/
def pair (r : ValueReading) : ValueReading := do
  let a ← r
  match ← attempt r with
  | some b => return if a = b then a else Written.joined " " [a, b]
  | none => return a

/-- Four sides with as few values as say the same. -/
def writeSides (top right bottom left : Written) : Written :=
  if right = left then
    if top = bottom then
      if top = right then top else Written.joined " " [top, right]
    else Written.joined " " [top, right, bottom]
  else Written.joined " " [top, right, bottom, left]

/-- A value for each of the four sides, some of which can be left out. -/
def fourSides (r : ValueReading) : Reading (Written × Written × Written × Written) := do
  let a ← r
  match ← attempt r with
  | none => return (a, a, a, a)
  | some b =>
    match ← attempt r with
    | none => return (a, b, a, b)
    | some c =>
      match ← attempt r with
      | none => return (a, b, c, b)
      | some d => return (a, b, c, d)

/-- **A value for the four sides.** -/
def sides (r : ValueReading) : ValueReading := do
  let (a, b, c, d) ← fourSides r
  return writeSides a b c d

/-- The first of some slots that is empty and reads something, filled. -/
def fillOne : List (ValueReading × Option Written) →
    Reading (Option (List (ValueReading × Option Written)))
  | [] => return none
  | (r, some w) :: rest => do
    return (← fillOne rest).map ((r, some w) :: ·)
  | (r, none) :: rest => do
    match ← attempt r with
    | some w => return some ((r, some w) :: rest)
    | none => return (← fillOne rest).map ((r, none) :: ·)

/-- Fills slots for as long as one of them reads something. -/
def fillAll : Nat → List (ValueReading × Option Written) → Reading (List (Option Written))
  | 0, slots => return slots.map (·.2)
  | n + 1, slots => do
    match ← fillOne slots with
    | some slots => fillAll n slots
    | none => return slots.map (·.2)

/-- Parts in any order, each at most once. -/
def looseOrder (parts : List ValueReading) : Reading (List (Option Written)) :=
  fillAll parts.length (parts.map (·, none))

/-- **Parts in any order**, each at most once and one at least. -/
def anyOrder (parts : List ValueReading) : Reading (List (Option Written)) := do
  let filled ← looseOrder parts
  if filled.all Option.isNone then failHere .invalidDeclaration else return filled

/-- The parts that are there and say something else than what is so anyway. -/
def telling (parts : List (Option Written × Written)) : List Written :=
  parts.filterMap fun (p, initial) => p.filter (· ≠ initial)

/-- The parts of a shorthand, written in the order given; when all are initial, what is
given for that. -/
def writeShorthand (filled : List (Option Written)) (initial : List String) (empty : Written) :
    Written :=
  let said := telling (filled.zip (initial.map fun t => Written.text t.toList))
  if said = [] then empty else Written.joined " " said

/-- **A shorthand**: parts in any order with their initial values, one of them at least. -/
def shorthand (parts : List (ValueReading × String)) (empty : Written) : ValueReading := do
  return writeShorthand (← anyOrder (parts.map (·.1))) (parts.map (·.2)) empty

/-- A shorthand all of whose parts can be missing. -/
def looseShorthand (parts : List (ValueReading × String)) (empty : Written) : ValueReading := do
  return writeShorthand (← looseOrder (parts.map (·.1))) (parts.map (·.2)) empty

end Value

end ModuleHooks.Css
