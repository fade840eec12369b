import ModuleHooks.Config.Setting
import ModuleHooks.Text.Quoted
import ModuleHooks.Toml.Document
/-!
# Configuration files

A configuration file is a document whose members are fields. There are two ways to read
one. *Alone*, a file is the whole configuration: its members are read in the order in
which they are written, and a fault points at the place in the file. *Layered*, a file
changes a configuration: its members are read in the order of their names, and a fault
names the key.

In both ways unknown members do not count, and a field that is not mentioned keeps the
value it had. A layer is put on by way of a document that has no way to write an absent
callback, so a callback that was absent before comes back with its default.

The document of a layer is one of plain values, without places, and it is made of the file
first. In this form a date is taken for a text where a text is wanted. A table whose first
member has the name of dates stands for a date there; if it is none, the file is refused,
whatever member the table belongs to.
-/

namespace ModuleHooks

open Toml

namespace Config

/-- The two ways to read a configuration file. -/
inductive Route where
  | alone
  | layered
  deriving DecidableEq, Repr

/-- A fault at a value. -/
def faultAt (span : Option Span) (message : Text) : Fault := { message, span }

/-- What a value is, as a surprise. -/
def surprise : Toml.Node → Text
  | .scalar _ (.string t) => ("string " : Text) ++ Text.shown t
  | .scalar _ (.integer n) => ("integer " : Text) ++ ConfigError.ticked (Text.ofInt n)
  | .scalar _ (.float x) =>
    let written := Binary.render .double x
    let full := if x.isFinite && !List.elem '.' written then written ++ ".0".toList else written
    ("floating point " : Text) ++ ConfigError.ticked full
  | .scalar _ (.boolean b) =>
    ("boolean " : Text) ++ ConfigError.ticked (if b then "true" else "false")
  | .scalar _ (.datetime _) => "map"
  | .array _ _ => "sequence"
  | .tables _ => "sequence"
  | .table _ => "map"

/-- The fault of a value that is of another type than expected. -/
def wrongType (v : Toml.Node) (expected : Text) : Fault :=
  faultAt v.span?
    (("invalid type: " : Text) ++ surprise v ++ ", expected ".toList ++ expected)

/-- A text. In a layer a date is the text of its normal form. -/
def readString (route : Route) : Toml.Node → Except Fault Text
  | .scalar _ (.string t) => .ok t
  | .scalar span (.datetime d) =>
    match route with
    | .alone => .error (wrongType (.scalar span (.datetime d)) "a string")
    | .layered => .ok d.render
  | v => .error (wrongType v "a string")

/-- A list of texts. -/
def readStrings (route : Route) : Toml.Node → Except Fault (List Text)
  | .array _ items => items.mapM (readString route)
  | .tables items => items.mapM (readString route)
  | v => .error (wrongType v "a sequence")

/-- The choice that a name makes. -/
def choiceOf {α : Type} (name : α → Text) (all : List α) (span : Option Span) (value : Text) :
    Except Fault α :=
  match all.find? fun a => name a == value with
  | some a => .ok a
  | none => .error (faultAt span (ConfigError.variantMessage value (all.map name)))

/-- The fault of an array beside the name of a choice that is not empty. -/
def notEmpty (route : Route) (span : Span) : Fault :=
  match route with
  | .alone => faultAt (some span) "expected empty table"
  | .layered => faultAt none "expected empty array"

/-- What stands beside the name of a choice must be empty. -/
def emptyBeside (route : Route) : Toml.Node → Except Fault Unit
  | .table t =>
    if t.members.isEmpty then .ok () else .error (faultAt t.span "expected empty table")
  | .tables items =>
    if items.isEmpty then .ok () else .error (faultAt none "expected empty array")
  | .array span items =>
    if items.isEmpty then .ok () else .error (notEmpty route span)
  | v => .error (faultAt v.span? (("expected table, found " : Text) ++ v.kind))

/-- The fault of a value that can make no choice. -/
def noChoice (route : Route) (v : Toml.Node) : Fault :=
  match route with
  | .alone => faultAt v.span? "wanted string or table"
  | .layered => faultAt none "invalid type: unit variant, expected string only"

/-- A choice: its name, or a table with its name alone and nothing beside it. -/
def readChoice {α : Type} (route : Route) (name : α → Text) (all : List α) (v : Toml.Node) :
    Except Fault α :=
  match v with
  | .scalar span (.string t) => choiceOf name all (some span) t
  | .table t =>
    match t.members with
    | [] => .error (faultAt t.span "wanted exactly 1 element, found 0 elements")
    | [(k, beside)] => do
      let a ← choiceOf name all (some k.span) k.name
      emptyBeside route beside
      return a
    | _ => .error (faultAt t.span "wanted exactly 1 element, more than 1 element")
  | v => .error (noChoice route v)

/-- The configuration with one field read from a value. -/
def readField (route : Route) (c : Config) (key : Key) (v : Toml.Node) : Except Fault Config :=
  match key with
  | .classNaming =>
    (readChoice route ClassNaming.name ClassNaming.all v).map fun x => { c with classNaming := x }
  | .localsConvention =>
    (readChoice route LocalsConvention.name LocalsConvention.all v).map
      fun x => { c with localsConvention := x }
  | .assetExport =>
    (readChoice route AssetExport.name AssetExport.all v).map fun x => { c with assetExport := x }
  | .onCssImported => (readString route v).map fun x => { c with onCssImported := some x }
  | .onCss => (readString route v).map fun x => { c with onCss := some x }
  | .outputDirs => (readStrings route v).map fun x => { c with outputDirs := x }
  | .sourceDir => (readString route v).map fun x => { c with sourceDir := x }

/-- A fault at a member: where no place is known, that of the key stands in. -/
def located (key : Toml.Key) (v : Toml.Node) (f : Fault) : Fault :=
  { f with span := (f.span.or v.span?).or (some key.span) }

/-- One member of a file that is read alone. -/
def readMember (c : Config) (m : Toml.Key × Toml.Node) : Except Fault Config :=
  match Key.ofName? m.1.name with
  | none => .ok c
  | some k => (readField .alone c k m.2).mapError (located m.1 m.2)

/-- **The configuration that a document alone describes.** -/
def ofTable (t : Table) : Except Fault Config := t.members.foldlM readMember {}

/-- **Reads a configuration from the text of a file.** -/
def parse (document : Text) : Except Fault Config := (Toml.parse document).bind ofTable

/-! ## Layers -/

/-- The name of the member by which a table stands for a date. -/
def dateMember : Text := "$__toml_private_datetime"

/-- The date that the member of dates holds. -/
def readDate : Toml.Node → Except Fault Toml.Node
  | .scalar span (.string t) =>
    match DateTime.parse? t with
    | some d => .ok (.scalar span (.datetime d))
    | none => .error (faultAt (some span) "failed to parse datetime")
  | v => .error (wrongType v "string containing a datetime")

mutual

/-- **A value with the dates in it recognised.** -/
def recognise : Toml.Node → Except Fault Toml.Node
  | .scalar span s => .ok (.scalar span s)
  | .array span items => (recogniseItems items).map (.array span)
  | .tables items => (recogniseItems items).map .tables
  | .table t => recogniseTable t

/-- A table, or the date that it stands for. The first member decides. -/
def recogniseTable : Table → Except Fault Toml.Node
  | ⟨span, inline, implicit, dotted, members⟩ =>
    match members.head?.filter (·.1.name == dateMember) with
    | some m => (readDate m.2).mapError (located m.1 m.2)
    | none =>
      (recogniseMembers members).map fun members =>
        .table ⟨span, inline, implicit, dotted, members⟩

/-- The items of an array. -/
def recogniseItems : List Toml.Node → Except Fault (List Toml.Node)
  | [] => .ok []
  | v :: rest => do
    let v ← recognise v
    return v :: (← recogniseItems rest)

/-- The members of a table. -/
def recogniseMembers : List (Toml.Key × Toml.Node) → Except Fault (List (Toml.Key × Toml.Node))
  | [] => .ok []
  | (k, v) :: rest => do
    let v' ← (recognise v).mapError (located k v)
    return (k, v') :: (← recogniseMembers rest)

end

/-- A document with the dates in it recognised. The document itself is never a date. -/
def recogniseAll (t : Table) : Except Fault Table :=
  (recogniseMembers t.members).map fun members => { t with members }

/-- **Reads the document of a layer** from the text of a file. -/
def parseLayer (document : Text) : Except Fault Table :=
  (Toml.parse document).bind recogniseAll

/-- The keys in the order of their names. -/
def keysByName : List Key :=
  [.assetExport, .classNaming, .localsConvention, .onCss, .onCssImported, .outputDirs, .sourceDir]

/-- The configuration as a document remembers it: absent callbacks have their
defaults. -/
def remembered (c : Config) : Config :=
  { c with
    onCssImported := c.onCssImported.or ({} : Config).onCssImported
    onCss := c.onCss.or ({} : Config).onCss }

/-- One field of a layer. -/
def readLayerField (t : Table) (c : Config) (k : Key) : Except Fault Config :=
  match t.get? k.name with
  | none => .ok c
  | some v =>
    (readField .layered c k v).mapError fun f => { message := f.message, keys := [k.name] }

/-- **Puts a document on top of a configuration.** -/
def overlayTable (c : Config) (t : Table) : Except Fault Config :=
  keysByName.foldlM (readLayerField t) c.remembered

/-- **Puts the text of a file on top of a configuration.** -/
def overlay (c : Config) (document : Text) : Except Fault Config :=
  (parseLayer document).bind (overlayTable c)

end Config

end ModuleHooks
