import ModuleHooks.Toml.DateTime
/-!
# TOML documents

The values of a configuration document. Each value remembers the stretch of text it was
read from, which a message about it points at, and each table how it came to be: written
in braces, opened by a header, or implied by a dotted key.
-/

namespace ModuleHooks.Toml

/-- **A stretch of text**, by the positions of its first character and of the one after
its last. -/
structure Span where
  start : Nat
  stop : Nat
  deriving DecidableEq, Repr

/-- **A key** as it is written. -/
structure Key where
  /-- The name that the key means. -/
  name : Text
  /-- The way it is written. -/
  written : Text
  /-- Where it is written. -/
  span : Span
  deriving DecidableEq, Repr

/-- A value that holds no others. -/
inductive Scalar where
  | string (t : Text)
  | integer (n : Int)
  | float (x : Binary)
  | boolean (b : Bool)
  | datetime (d : DateTime)
  deriving DecidableEq, Repr

/-- A table with values of some kind. -/
structure TableOf (α : Type) where
  /-- Where the table is written, if that is one place. -/
  span : Option Span := none
  /-- Written in braces. -/
  inline : Bool := false
  /-- Implied by a longer key or header. -/
  implicit : Bool := false
  /-- Implied by a dotted key. -/
  dotted : Bool := false
  /-- The members, in order. -/
  members : List (Key × α) := []
  deriving Repr

/-- **A value of a document.** -/
inductive Node where
  /-- A value that holds no others. -/
  | scalar (span : Span) (s : Scalar)
  /-- An array in brackets. -/
  | array (span : Span) (items : List Node)
  /-- The tables of a header in double brackets. -/
  | tables (items : List Node)
  /-- A table. -/
  | table (t : TableOf Node)
  deriving Repr

/-- A table of a document. -/
abbrev Table := TableOf Node

/-- The kind of a value, in messages. -/
def Node.kind : Node → Text
  | .scalar _ (.string _) => "string"
  | .scalar _ (.integer _) => "integer"
  | .scalar _ (.float _) => "float"
  | .scalar _ (.boolean _) => "boolean"
  | .scalar _ (.datetime _) => "datetime"
  | .array _ _ => "array"
  | .tables _ => "array of tables"
  | .table t => if t.inline then "inline table" else "table"

/-- Where a value is written, if that is one place. -/
def Node.span? : Node → Option Span
  | .scalar span _ => some span
  | .array span _ => some span
  | .tables (.table t :: _) => t.span
  | .tables _ => none
  | .table t => t.span

namespace TableOf

/-- The value of a name. -/
def get? {α : Type} (t : TableOf α) (name : Text) : Option α :=
  (t.members.find? fun m => m.1.name == name).map (·.2)

/-- The table with another value under a name that it has. -/
def replace {α : Type} (t : TableOf α) (name : Text) (value : α) : TableOf α :=
  { t with members := t.members.map fun m => if m.1.name = name then (m.1, value) else m }

/-- The table without a name. -/
def erase {α : Type} (t : TableOf α) (name : Text) : TableOf α :=
  { t with members := t.members.filter fun m => m.1.name != name }

/-- The table with one more member, at the end. -/
def append {α : Type} (t : TableOf α) (key : Key) (value : α) : TableOf α :=
  { t with members := t.members ++ [(key, value)] }

end TableOf

end ModuleHooks.Toml
