import ModuleHooks.Css.Value.Basic
/-!
# Grids

The tracks of a grid, the names of their lines and areas, and where items are placed
among them. Names of lines and areas are local to a scoped stylesheet.

The names of a line stand right after the track before it; a track that follows names or
another track is set off by a blank.
-/

namespace ModuleHooks.Css.Value

open Reading

/-! ## Tracks -/

/-- The names of a line, in square brackets; there may be none at all. -/
def lineNames : Reading (List Text) := do
  match ← attempt (expect fun c => if c.head == .opening .square then some c else none) with
  | some c => inside c (repeated authorIdent)
  | none => return []

/-- The names of a line, written in square brackets if there are any. -/
def writeLineNames (names : List Text) : Written :=
  if names = [] then []
  else
    .text ['['] :: Written.joined " " (names.map fun n => [.gridLine n]) ++ [.text [']']]

/-- A share of the space that is left. -/
def fraction : Reading Text :=
  expect fun c =>
    match c.head with
    | .dimension n unit =>
      if Text.eqIgnoringCase unit "fr" && !n.value.isNegative then
        some (writeDimension n.value "fr")
      else none
    | _ => none

/-- The size of a track on the side where it cannot be a share. -/
def fixedBreadth : Reading Text :=
  orTry Reading.lengthPercentage
    (keywordOf (["auto", "min-content", "max-content"].map String.toList))

/-- The size of a track on one side. -/
def trackBreadth : Reading Text := orTry fraction fixedBreadth

/-- The size of a track. -/
def trackSize : Reading Text :=
  orTry trackBreadth do
    let (name, c) ← function
    let name := Text.lowerAscii name
    if name = ("minmax" : Text) then
      inside c do
        let a ← fixedBreadth
        comma
        return ("minmax(" : Text) ++ a ++ ", ".toList ++ (← trackBreadth) ++ [')']
    else if name = ("fit-content" : Text) then
      return ("fit-content(" : Text) ++ (← inside c Reading.lengthPercentage) ++ [')']
    else unexpected c

/-- **Tracks**, with the names of the line before each of them and after the last one. -/
structure TrackList where
  names : List (List Text)
  tracks : List Written
  deriving DecidableEq, Repr

namespace TrackList

/-- Tracks of a kind, for as long as there are some. The first argument bounds their
number. -/
def readUpTo (track : ValueReading) : Nat → Reading TrackList
  | 0 => return ⟨[], []⟩
  | n + 1 => do
    let names ← lineNames
    match ← attempt track with
    | none => return ⟨[names], []⟩
    | some w =>
      let rest ← readUpTo track n
      return ⟨names :: rest.names, w :: rest.tracks⟩

/-- Tracks of a kind. -/
def read (track : ValueReading) : Reading TrackList := fun s =>
  readUpTo track (s.rest.length + 1) s

/-- The lines and the tracks that are left, in turn. -/
def writeFrom (isFirst : Bool) : List (List Text) → List Written → Written
  | [], _ => []
  | names :: _, [] => writeLineNames names
  | names :: more, w :: ws =>
    let gap : Written :=
      if names = [] && isFirst then [] else Written.text [' ']
    writeLineNames names ++ gap ++ w ++ writeFrom false more ws

/-- Tracks, written. -/
def write (l : TrackList) : Written := writeFrom true l.names l.tracks

end TrackList

/-- Repeated tracks. -/
def trackRepeat : ValueReading := do
  let c ← functionOf "repeat"
  inside c do
    let count ← orTry (do return Text.ofInt (← Reading.integer))
      (keywordOf (["auto-fill", "auto-fit"].map String.toList))
    comma
    let l ← TrackList.read (plain trackSize)
    return .text (("repeat(" : Text) ++ count ++ ", ".toList) :: l.write ++ [.text [')']]

/-- Tracks of which at least one is there. -/
def trackList (track : ValueReading) : ValueReading := do
  let l ← TrackList.read track
  if l.tracks = [] then failHere .invalidDeclaration else return l.write

/-- **The tracks of a grid.** -/
def tracks : ValueReading :=
  either (keywords ["none"]) (trackList (either (plain trackSize) trackRepeat))

/-- The sizes of the tracks that a grid makes by itself; one that is automatic is none. -/
def madeSizes : Reading (List Text) := do
  let sizes ← repeated trackSize
  return if sizes = ["auto".toList] then [] else sizes

/-- The sizes of the tracks that a grid makes by itself, written. -/
def madeTracks : ValueReading := do
  let sizes ← madeSizes
  return Written.text (if sizes = [] then "auto" else Text.join " " sizes)

/-! ## Areas -/

/-- A character that can stand in the name of an area. -/
def isAreaChar (c : Char) : Bool :=
  c.isAlphanum || c = '_' || c = '-' || c.toNat ≥ 128

/-- The names of the areas in a row; a run of dots is an area without a name. The first
argument bounds their number. -/
def areaNamesUpTo : Nat → Text → Option (List Text)
  | 0, _ => none
  | n + 1, t =>
    let isBlank (c : Char) : Bool := c == ' ' || c == '\t' || c == '\n' || c == '\r' || c == '\x0c'
    match t.dropWhile isBlank with
    | [] => some []
    | c :: r =>
      if c = '.' then (areaNamesUpTo n (r.dropWhile (· == '.'))).map (['.'] :: ·)
      else
        let name := (c :: r).takeWhile isAreaChar
        if name = [] then none
        else (areaNamesUpTo n ((c :: r).drop name.length)).map (name :: ·)

/-- The names of the areas in a row, of which there is at least one. -/
def areaNames (row : Text) : Option (List Text) :=
  (areaNamesUpTo (row.length + 1) row).filter (· ≠ [])

/-- A row of areas. -/
def writeAreas (names : List Text) : Written :=
  let one (name : Text) : Written := if name = ['.'] then [.text name] else [.gridLine name]
  .text ['"'] :: Written.joined " " (names.map one) ++ [.text ['"']]

/-- The areas of a grid, one row below the other. -/
def areas : ValueReading :=
  either (keywords ["none"]) do
    let first ← string
    let more ← repeated string
    match (first :: more).mapM areaNames with
    | none => failHere .invalidValue
    | some rows =>
      let width := (rows.headD []).length
      if rows.any (·.length ≠ width) then failHere .invalidValue
      else
        match rows.map writeAreas with
        | [] => return []
        | r :: rest => return r ++ rest.flatMap (.lineBreak "grid-template-areas: ".length :: ·)

/-! ## Templates -/

/-- **A row of a template**: the names of the line above it, its areas, and its height
unless that is automatic. -/
structure TemplateRow where
  above : List Text
  areas : List Text
  height : Option Text
  deriving DecidableEq, Repr

/-- The rows of a template after some names, with the names of the line below them. The
first argument bounds their number. -/
def templateRowsUpTo : Nat → List Text → Reading (List TemplateRow × List Text)
  | 0, names => return ([], names)
  | n + 1, names => do
    let above := names ++ (← lineNames)
    match ← attempt string with
    | none => return ([], above)
    | some row =>
      match areaNames row with
      | none => failHere .invalidDeclaration
      | some areas =>
        let height := (← attempt trackSize).filter (· ≠ ("auto" : Text))
        let (rows, below) ← templateRowsUpTo n (← lineNames)
        return (⟨above, areas, height⟩ :: rows, below)

/-- What stands in front of a row of a template: the end of the line before, unless the row
is the first one, and the names of its line. Two names are on two lines. -/
def TemplateRow.writeFront (column : Nat) (isFirst : Bool) (r : TemplateRow) : Written :=
  let newline : Written := [.lineBreak column]
  let space : Written := Written.text [' ']
  match r.above with
  | [a, b] => space ++ writeLineNames [a] ++ newline ++ writeLineNames [b] ++ space
  | names =>
    (if isFirst then [] else newline) ++ writeLineNames names ++
      (if names = [] then [] else space)

/-- A row of a template, written. -/
def TemplateRow.write (column : Nat) (isFirst : Bool) (r : TemplateRow) : Written :=
  r.writeFront column isFirst ++ writeAreas r.areas ++
    (match r.height with
      | some t => Written.text (' ' :: t)
      | none => [])

/-- The rows of a template, written. They come one below the other, as far from the front as
the name of the property takes; the columns do so too if there is any line end before. -/
def writeTemplate (column : Nat) (rows : List TemplateRow) (below : List Text)
    (columns : Option Written) : Written :=
  let body : Written :=
    match rows with
    | [] => []
    | r :: more => r.write column true ++ more.flatMap (TemplateRow.write column false)
  let isBroken := List.elem (Piece.lineBreak column) body
  body ++ (if below = [] then [] else .text [' '] :: writeLineNames below) ++
    (match columns with
      | some w => .lineBreak (if isBroken then column else 0) :: .text "/ " :: w
      | none => [])

/-- The tracks of both axes. -/
def writeAxes (rows columns : Written) : Written :=
  let noneWritten := Written.text ("none" : Text)
  if rows = noneWritten && columns = noneWritten then noneWritten
  else Written.joined " / " [rows, columns]

/-- Rows of areas, with columns after a slash. -/
def areaTemplate (column : Nat) : ValueReading := do
  let s ← get
  let (rows, below) ← templateRowsUpTo (s.rest.length + 1) []
  let width := (rows.map (·.areas.length)).headD 0
  if rows = [] || rows.any (·.areas.length ≠ width) then failHere .invalidDeclaration
  else
    match ← attempt (delim '/') with
    | none => return writeTemplate column rows below none
    | some _ => return writeTemplate column rows below (some (← trackList (plain trackSize)))

/-- **The rows, columns and areas of a grid.** -/
def gridTemplate (column : Nat) : ValueReading :=
  either
    (do
      let w ← keywords ["none"]
      finished
      return w)
    (either (areaTemplate column) do
      let rows ← tracks
      delim '/'
      return writeAxes rows (← tracks))

/-- The flow of items by themselves: whether it is dense, and the sizes of the tracks that
it makes. -/
def autoFlow : Reading (Bool × List Text) := do
  let before ← attempt (keyword "dense")
  keyword "auto-flow"
  let after ← if before.isNone then attempt (keyword "dense") else pure none
  return (before.isSome || after.isSome, ← madeSizes)

/-- The flow of items by themselves, written. -/
def writeFlow (isDense : Bool) (sizes : List Text) : Written :=
  Written.text (Text.join " "
    ("auto-flow".toList :: (if isDense then ["dense".toList] else []) ++ sizes))

/-- **A grid**: a template, or tracks of one axis and the flow along the other. A flow along
the rows that says nothing is a template without rows. -/
def grid : ValueReading :=
  either (gridTemplate "grid: ".length)
    (either
      (do
        let rows ← tracks
        delim '/'
        let (isDense, sizes) ← autoFlow
        return Written.joined " / " [rows, writeFlow isDense sizes])
      (do
        let (isDense, sizes) ← autoFlow
        delim '/'
        let columns ← tracks
        return if !isDense && sizes = [] then writeAxes (Written.text ("none" : Text)) columns
          else Written.joined " / " [writeFlow isDense sizes, columns]))

/-- How items flow into a grid: the axis and whether gaps are filled. -/
def gridFlow : ValueReading := do
  match ← anyOrder [keywords ["row", "column"], keywords ["dense"]] with
  | [axis, dense] =>
    return Written.joined " " (axis.getD (Written.text ("row" : Text)) :: dense.toList)
  | _ => failHere .invalidValue

/-! ## Places -/

/-- A line of a grid, with whether it is a bare name and whether it is automatic. -/
structure GridLine where
  written : Written
  name : Option Text := none
  isAuto : Bool := false

/-- A number and a name in either order, at least one of them. -/
def numberAndName : Reading (Option Int × Option Text) := do
  match ← attempt Reading.integer with
  | some n => return (some n, ← attempt authorIdent)
  | none =>
    let name ← authorIdent
    return (← attempt Reading.integer, some name)

/-- A line of a grid, or how many lines there are to it. One line up to a name is not
counted. -/
def gridLine : Reading GridLine := do
  match ← attempt (keyword "auto") with
  | some _ => return { written := Written.text ("auto" : Text), isAuto := true }
  | none =>
    let span ← attempt (keyword "span")
    let (number, name) ← numberAndName
    let number := if span.isSome && name.isSome then number.filter (· ≠ 1) else number
    let parts := [span.map fun _ => Written.text ("span" : Text),
      number.map fun n => Written.text (Text.ofInt n), name.map fun n => [.gridLine n]]
    return {
      written := Written.joined " " (parts.filterMap id)
      name := if span.isNone && number.isNone then name else none }

/-- Whether the end of a place follows from its start. -/
def GridLine.implies (start finish : GridLine) : Bool :=
  match start.name with
  | some name => finish.name = some name
  | none => finish.isAuto

/-- What the end of a place is when only its start is given. -/
def GridLine.usualEnd (start : GridLine) : GridLine :=
  match start.name with
  | some _ => start
  | none => { written := Written.text ("auto" : Text), isAuto := true }

/-- The line after a slash. -/
def lineAfterSlash (start : GridLine) : Reading GridLine := do
  match ← attempt (delim '/') with
  | some _ => gridLine
  | none => return start.usualEnd

/-- Where an item is along one axis. -/
def gridSpan : ValueReading := do
  let a ← gridLine
  let b ← lineAfterSlash a
  return if a.implies b then a.written else Written.joined " / " [a.written, b.written]

/-- **Where an item is in a grid.** -/
def gridArea : ValueReading := do
  let rowStart ← gridLine
  let columnStart ← lineAfterSlash rowStart
  let rowEnd ← lineAfterSlash rowStart
  let columnEnd ← lineAfterSlash columnStart
  let last := if columnStart.implies columnEnd then [] else [columnEnd]
  let third := if last.isEmpty && rowStart.implies rowEnd then [] else [rowEnd]
  let second :=
    if last.isEmpty && third.isEmpty && rowStart.implies columnStart then [] else [columnStart]
  return Written.joined " / " ((rowStart :: second ++ third ++ last).map (·.written))

end ModuleHooks.Css.Value
