import ModuleHooks.Toml.Grammar
/-!
# Whole documents

A document is read line by line into a root table. Between two headers there is one
current table, which enters the root when the next header, or the end, closes it.

The text of a fault shows the line it is in, with marks below the characters it is
about. Columns count characters; the number of marks, and the column of a place that
begins with a character outside ASCII, count bytes.
-/

namespace ModuleHooks.Toml

open Reader

/-- **A document in the making.** -/
structure Draft where
  /-- What is closed. -/
  root : Table := {}
  /-- The table that lines go into. -/
  current : Table := {}
  /-- The path of the current table; the root has none. -/
  path : List Key := []
  /-- Whether the current table is one of several of its name. -/
  repeated : Bool := false
  deriving Repr

namespace Draft

/-- The path and the last key of a header. -/
def splitPath (path : List Key) : Option (List Key × Key) :=
  match path.reverse with
  | [] => none
  | last :: r => some (r.reverse, last)

/-- The refusal of a header whose name is taken. -/
def headerTaken (path : List Key) (last : Key) : Text :=
  duplicateKey last.written (some (path.map (·.name)))

/-- Adds a table to those of its name. -/
def addRepeated (path : List Key) (last : Key) (child : Table) (t : Table) :
    Except Text Table :=
  match t.get? last.name with
  | none => .ok (t.append last (.tables [.table child]))
  | some (.tables items) => .ok (t.replace last.name (.tables (items ++ [.table child])))
  | some _ => .error (headerTaken path last)

/-- **Closes the current table.** -/
def close (d : Draft) : Except Text Table :=
  match splitPath d.path with
  | none => .ok d.current
  | some (path, last) =>
    updateAt false false
      (fun t =>
        if d.repeated then addRepeated path last d.current t
        else .ok (t.append last (.table d.current)))
      [] path d.root

/-- The table that a path leads to, or an empty one that is implied. -/
def tableAt (root : Table) : List Key → Table
  | [] => root
  | k :: rest =>
    match root.get? k.name with
    | some (.table t) => tableAt t rest
    | some (.tables items) =>
      match items.getLast? with
      | some (.table t) => tableAt t rest
      | _ => {}
    | _ => {}

/-- **Opens a table** by a header. A table that was only implied so far goes on. -/
def openTable (d : Draft) (span : Span) (header : List Key) : Except Text Draft := do
  let root ← d.close
  match splitPath header with
  | none => .ok d
  | some (path, last) =>
    let root ← updateAt false false (fun t => .ok t) [] path root
    let fresh : Table := { span := some span }
    match (tableAt root path).get? last.name with
    | none => .ok { root, current := fresh, path := header }
    | some (.table t) =>
      if t.implicit && !t.dotted && !t.inline then
        let root ← updateAt false false (fun p => .ok (p.erase last.name)) [] path root
        .ok { root, current := { t with span := some span, implicit := false }, path := header }
      else .error (headerTaken path last)
    | some _ => .error (headerTaken path last)

/-- **Opens one more table** of a name. -/
def openRepeated (d : Draft) (span : Span) (header : List Key) : Except Text Draft := do
  let root ← d.close
  match splitPath header with
  | none => .ok d
  | some (path, last) =>
    let root ← updateAt false false (fun t => .ok t) [] path root
    let next : Draft :=
      { root, current := { span := some span }, path := header, repeated := true }
    match (tableAt root path).get? last.name with
    | none => .ok next
    | some (.tables _) => .ok next
    | some _ => .error (headerTaken path last)

/-- The table with its span drawn out to the end of a value. -/
def extendSpan (t : Table) (v : Node) : Table :=
  match t.span, v.span? with
  | some s, some e => { t with span := some ⟨s.start, e.stop⟩ }
  | _, _ => t

/-- **Adds a line** to the current table. -/
def addPair (d : Draft) (key : List Key) (v : Node) : Except Text Draft :=
  match splitPath key with
  | none => .ok d
  | some (path, last) =>
    (updateAt false (path != []) (insertMember (path != []) (some (d.path.map (·.name))) last v)
      [] path (extendSpan d.current v)).map fun t => { d with current := t }

end Draft

/-! ## Lines -/

/-- A line that a key begins. -/
def pairLine (d : Draft) : Reader Draft :=
  checked (fun x => d.addPair x.1 x.2)
    (andThen key fun k =>
      committed (andThen keyMark fun _ =>
        andThen spaces fun _ =>
          andThen (value depthLimit) fun v => andThen lineTail fun _ => give (k, v)))

/-- A header between the given brackets. -/
def header (opening closing : Text) (closingName : Text) : Reader (List Key × Span) :=
  andThen
    (placed (thenRead (literal opening)
      (before (committed key)
        (expecting [ticked '.', closingName] (committed (literal closing))))))
    fun x => andThen (committed lineTail) fun _ => give (x.1, ⟨x.2.1, x.2.2⟩)

/-- A line that is a header. -/
def headerLine (d : Draft) : Reader Draft :=
  labelled "table header" fun i =>
    match i.rest with
    | '[' :: '[' :: _ =>
      checked (fun x => d.openRepeated x.2 x.1)
        (header "[[" "]]" [Char.ofNat 96, ']', ']', Char.ofNat 96]) i
    | _ :: _ :: _ => checked (fun x => d.openTable x.2 x.1) (header "[" "]" (ticked ']')) i
    | _ => .failed false {} i

/-- A line, by its first character. -/
def line (d : Draft) : Reader Draft :=
  choose fun c =>
    if c = '#' then map (fun _ => d) (committed (thenRead comment lineOrDocumentEnd))
    else if c = '[' then committed (headerLine d)
    else if c = '\n' || c = '\r' then map (fun _ => d) lineEnd
    else committed (pairLine d)

/-- The lines of a document. The first argument bounds their number. -/
def lines : Nat → Draft → Reader Draft
  | 0, d => give d
  | n + 1, d => fun i =>
    match before (line d) spaces i with
    | .ok d next => lines n d next
    | .failed false _ _ => .ok d i
    | .failed true why place => .failed true why place

/-- A document from its first character on. -/
def wholeDocument : Reader Table := fun i =>
  andThen (perhaps (char '\uFEFF')) (fun _ =>
    andThen spaces fun _ =>
      andThen (lines (i.rest.length + 1) {}) fun d =>
        andThen atEnd fun _ => checked (fun d => Draft.close d) (give d)) i

/-- **What is wrong with a document**, and where. -/
structure Fault where
  /-- What is wrong. -/
  message : Text
  /-- The characters to point at, if they are known. -/
  span : Option Span := none
  /-- The keys that lead to the place, if only they are known. -/
  keys : List Text := []
  deriving DecidableEq, Repr

/-- **Reads a document.** -/
def parse (t : Text) : Except Fault Table :=
  match wholeDocument ⟨0, t⟩ with
  | .ok table _ => .ok table
  | .failed _ why place =>
    .error
      { message := why.message
        span := some ⟨place.position, place.position + if place.rest = [] then 0 else 1⟩ }

/-! ## Pointing at faults -/

/-- The number of the line that holds a position, from nought, and the position in it. A
position at the end belongs to the line of the last character. -/
def placeOf (t : Text) (position : Nat) : Nat × Nat :=
  let last := min position (t.length - 1)
  let front := t.take last
  let inLine := (front.reverse.takeWhile (· != '\n')).reverse
  let column :=
    match t.drop last with
    | c :: _ => if c.toNat < 128 then inLine.length else Text.utf8Length inLine
    | [] => inLine.length
  let past := if position > last then position - last else 0
  ((front.filter (· == '\n')).length, column + past)

/-- The marked excerpt of a document. -/
def excerpt (document : Text) (span : Span) : Text :=
  let (line, column) := placeOf document span.start
  let number := Text.ofNat (line + 1)
  let gutter : Text := List.replicate number.length ' '
  let content := ((Text.splitOn '\n' document).drop line).headD []
  let wanted := Text.utf8Length ((document.drop span.start).take (span.stop - span.start))
  let marks := max 1 (min wanted (Text.utf8Length content - column))
  ("TOML parse error at line " : Text) ++ number ++ ", column ".toList ++
    Text.ofNat (column + 1) ++ ['\n'] ++ gutter ++ " |\n".toList ++ number ++ " | ".toList ++
    content ++ ['\n'] ++ gutter ++ " | ".toList ++ List.replicate column ' ' ++
    List.replicate marks '^' ++ ['\n']

/-- **The text of a fault** of a document: an excerpt if the place is known, else the
keys that lead there. -/
def Fault.render (document : Text) (f : Fault) : Text :=
  match f.span with
  | some span => excerpt document span ++ f.message ++ ['\n']
  | none =>
    f.message ++ ['\n'] ++
      if f.keys = [] then []
      else
        ("in " : Text) ++ Char.ofNat 96 :: Text.join "." f.keys ++ [Char.ofNat 96, '\n']

end ModuleHooks.Toml
