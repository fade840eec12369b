import ModuleHooks.Toml.Lexeme
/-!
# Values of documents

Values by their first character. Arrays and tables in braces may be nested, but not
deeper than a bound, which is at the same time what the recursion goes down on.
-/

namespace ModuleHooks.Toml

open Reader

/-! ## Tables in braces -/

/-- The refusal of a name that is taken. -/
def duplicateKey (name : Text) (table : Option (List Text)) : Text :=
  ("duplicate key " : Text) ++ Char.ofNat 96 :: name ++ [Char.ofNat 96] ++
    match table with
    | none => []
    | some [] => " in document root"
    | some path =>
      (" in table " : Text) ++ Char.ofNat 96 :: Text.join "." path ++ [Char.ofNat 96]

/-- The refusal of a dotted key that leads through something other than a table. -/
def extendsOther (path : List Text) (kind : Text) : Text :=
  ("dotted key " : Text) ++ Char.ofNat 96 :: Text.join "." path ++ [Char.ofNat 96] ++
    " attempted to extend non-table type (".toList ++ kind ++ [')']

/-- Puts a value under a name that must be free, in a table that a dotted key leads to
exactly if the key has dots. -/
def insertMember (dotted : Bool) (table : Option (List Text)) (key : Key) (value : Node)
    (t : Table) : Except Text Table :=
  if t.dotted != dotted then .error (duplicateKey key.name none)
  else if (t.get? key.name).isSome then .error (duplicateKey key.name table)
  else .ok (t.append key value)

/-- **Changes the table that a path leads to**, from a given table on. Tables that are
missing on the way are implied; a dotted key may only go through implied ones. In braces
only tables in braces are gone through, elsewhere only the others. -/
def updateAt (inline dotted : Bool) (change : Table → Except Text Table) :
    List Text → List Key → Table → Except Text Table
  | _, [], t => change t
  | done, k :: rest, t =>
    match t.get? k.name with
    | none =>
      (updateAt inline dotted change (done ++ [k.name]) rest
        { inline, implicit := !inline || dotted, dotted }).map
          fun child => t.append k (.table child)
    | some (.table child) =>
      if child.inline != inline then
        .error (extendsOther (done ++ [k.name]) (Node.table child).kind)
      else if dotted && !child.implicit then .error (duplicateKey k.name none)
      else
        (updateAt inline dotted change (done ++ [k.name]) rest child).map
          fun child => t.replace k.name (.table child)
    | some (.tables items) =>
      match items.reverse with
      | .table child :: others =>
        (updateAt inline dotted change (done ++ [k.name]) rest child).map
          fun child => t.replace k.name (.tables (.table child :: others).reverse)
      | _ => .error (extendsOther (done ++ [k.name]) "array of tables")
    | some other => .error (extendsOther (done ++ [k.name]) other.kind)

/-- The table of pairs of keys and values. -/
def tableOfPairs (span : Span) (pairs : List (List Key × Node)) : Except Text Table :=
  pairs.foldlM
    (fun t p =>
      match p.1.reverse with
      | [] => .ok t
      | last :: path =>
        updateAt true (path != []) (insertMember (path != []) none last p.2) [] path.reverse t)
    { span := some span, inline := true }

/-! ## Values -/

/-- A word that stands for a value. A word that only begins the same way is no value. -/
def word {α : Type} (w : Text) (a : α) : Reader α := map (fun _ => a) (committed (literal w))

/-- Adds to a failure what a misspelt value should have been. -/
def asString {α : Type} (p : Reader α) : Reader α :=
  expecting [ticked '"', ticked '\''] (labelled "string" p)

/-- A value without others inside. -/
def scalar (c : Char) : Reader Scalar :=
  if c = '"' || c = '\'' then map .string string
  else if c = '+' || c = '-' || c.isDigit then
    alternatively (map .datetime dateTime)
      (alternatively (map .float float) (map .integer integer))
  else if c = '_' then expecting ["leading digit".toList] (map .integer integer)
  else if c = '.' then expecting ["leading digit".toList] (map .float float)
  else if c = 't' then asString (word "true" (.boolean true))
  else if c = 'f' then asString (word "false" (.boolean false))
  else if c = 'i' then asString (map .float infinity)
  else if c = 'n' then asString (map .float notANumber)
  else asString fail

/-- The separator of a key and its value. -/
def keyMark : Reader Unit :=
  expecting [ticked '.', ticked '='] (map (fun _ => ()) (char '='))

/-- The items of an array. -/
def arrayItems (value : Reader Node) : Reader (List Node) := fun i =>
  match i.rest with
  | ']' :: _ => .ok [] i
  | _ =>
    let item := thenRead blanksAndComments (before value blanksAndComments)
    andThen (perhaps (separated item (char ','))) (fun l =>
      andThen (if l.isSome then map (fun _ => ()) (perhaps (char ',')) else give ()) fun _ =>
        andThen blanksAndComments fun _ => give (l.getD [])) i

/-- An array. -/
def array (value : Reader Node) : Reader Node := fun i =>
  andThen (char '[') (fun _ =>
    andThen (committed (arrayItems value)) fun items =>
      andThen (expecting [ticked ']'] (labelled "array" (committed (char ']')))) fun _ =>
        fun next => .ok (.array ⟨i.position, next.position⟩ items) next) i

/-- A key and its value in braces. -/
def inlinePair (value : Reader Node) : Reader (List Key × Node) :=
  andThen key fun k =>
    committed (andThen keyMark fun _ =>
      andThen spaces fun _ => andThen value fun v => andThen spaces fun _ => give (k, v))

/-- The pairs in braces. -/
def inlinePairs (value : Reader Node) : Reader (List (List Key × Node)) :=
  andThen (perhaps (separated (inlinePair value) (char ','))) fun l =>
    andThen spaces fun _ => give (l.getD [])

/-- A table in braces. -/
def inlineTable (value : Reader Node) : Reader Node := fun i =>
  andThen (char '\x7b') (fun _ =>
    andThen (committed (checked (tableOfPairs ⟨0, 0⟩) (inlinePairs value))) fun t =>
      andThen (expecting [ticked '\x7d'] (labelled "inline table" (committed (char '\x7d'))))
        fun _ => fun next =>
          .ok (.table { t with span := some ⟨i.position, next.position⟩ }) next) i

/-- **A value**, with at most so many others around it. -/
def value : Nat → Reader Node
  | n, i =>
    choose (fun c =>
      if c = '[' then
        match n with
        | 0 => fun i => .failed true { cause := some "recursion limit exceeded" } i
        | m + 1 => array (value m)
      else if c = '\x7b' then
        match n with
        | 0 => fun i => .failed true { cause := some "recursion limit exceeded" } i
        | m + 1 => inlineTable (value m)
      else map (fun x => .scalar ⟨x.2.1, x.2.2⟩ x.1) (placed (scalar c))) i

/-- How deep values may be nested. -/
def depthLimit : Nat := 79

end ModuleHooks.Toml
