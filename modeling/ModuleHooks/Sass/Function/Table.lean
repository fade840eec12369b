import ModuleHooks.Sass.Function.Color
import ModuleHooks.Sass.Function.List
import ModuleHooks.Sass.Function.Math
import ModuleHooks.Sass.Function.Selector
import ModuleHooks.Sass.Function.Text
/-!
# Names of the functions that are always there

Each of the functions belongs to a module, and most of them can be called without the
module as well, often under a longer name. Some functions look at the names around the
call; those are kept apart, because a call alone does not say what they come to.
-/

namespace ModuleHooks.Sass.Function

open Sass.Builtin

/-- What kind of value a value is. -/
def kind : Value → Text
  | .null => "null"
  | .truth _ => "bool"
  | .number _ => "number"
  | .color _ => "color"
  | .text _ _ => "string"
  | .list .. => "list"
  | .arguments .. => "arglist"
  | .map _ => "map"
  | .function _ => "function"
  | .calculation _ => "calculation"

/-- The features that can be asked for. -/
def features : List Text :=
  List.map String.toList
    ["global-variable-shadowing", "extend-selector-pseudoclass", "units-level-3", "at-error",
      "custom-property"]

/-- A part of a calculation as a value. -/
def calcPart : Calc → Value
  | .number n => .number n
  | .call name args => .calculation (.call name args)
  | .text t => .word t
  | .code t => .word t
  | c =>
    match c.show true with
    | .ok t => .word t
    | .error e => .word e.message

/-- A calculation that is an argument, with its name and its parts. -/
def calcArg : Builtin (CalcName × List Calc) := do
  atMost 1
  match ← arg 0 "calc" with
  | .calculation (.call name args) => return (name, args)
  | v => failArg "calc" (v.inspect ++ " is not a calculation.".toList)

/-- **The functions of values**, by their names in their module. -/
def values : Functions :=
  [("inspect", do
      atMost 1
      return .word (← arg 0 "value").inspect),
    ("type-of", do
      atMost 1
      return .word (kind (← arg 0 "value"))),
    ("feature-exists", do
      atMost 1
      return .truth (List.elem (← text 0 "feature").1 features)),
    ("calc-name", do return .text (← calcArg).1.write true),
    ("calc-args", do return .list ((← calcArg).2.map calcPart) .comma false)]

/-- **The functions that look at the names around the call.** -/
def lookers : List String :=
  ["keywords", "variable-exists", "global-variable-exists", "function-exists", "mixin-exists",
    "content-exists", "get-function", "call", "module-variables", "module-functions"]

/-! ## Drawing by lot -/

/-- How many parts one is divided into when a part of it is drawn. -/
def drawnParts : Nat := Nat.pow 2 52

/-- **A number that is drawn by lot**: a part of one that is less than one, or a whole number
from one up to a limit. -/
def random : Builtin Value := do
  atMost 1
  match ← argOr 0 "limit" .null with
  | .null =>
    return .number (.plain (Binary.ofRatio .double false ((← draw) % drawnParts) drawnParts))
  | v =>
    let n ← asNumber "limit" v
    let limit ← asInt "limit" n
    if limit < 1 then
      failArg "limit" ("Must be greater than 0, was ".toList ++ n.write ++ ['.'])
    else return .number (.ofInt ((← draw) % limit.toNat + 1))

/-- The characters that names are drawn from. -/
def drawnChars : Text := "ABCDEFGHIJKLMNOPQRSTUVWXYZabcdefghijklmnopqrstuvwxyz0123456789"

/-- A character that is drawn by lot. -/
def drawnChar : Builtin Char := do
  return drawnChars.getD ((← draw) % drawnChars.length) '0'

/-- **A name that is drawn by lot.** -/
def uniqueId : Builtin Value := do
  atMost 0
  return .word ("id-".toList ++ (← (List.range 12).mapM fun _ => drawnChar))

/-! ## Tables -/

/-- **The functions of a module.** -/
def ofModule (module : Text) : Functions :=
  match module.toString with
  | "color" => colors
  | "list" => lists
  | "map" => maps
  | "math" => ("random", random) :: math
  | "meta" => values
  | "selector" => selectors
  | "string" => ("unique-id", uniqueId) :: texts
  | _ => []

/-- The names of the modules that are always there. -/
def moduleNames : List Text :=
  List.map String.toList ["color", "list", "map", "math", "meta", "selector", "string"]

/-- The functions that can be called without a module under their own names. -/
def sameNames : List (String × List String) :=
  [("color", ["red", "green", "blue", "hue", "saturation", "lightness", "alpha", "opacity", "mix",
      "invert", "grayscale", "complement", "ie-hex-str"]),
    ("list", ["length", "nth", "set-nth", "join", "append", "zip", "index", "is-bracketed"]),
    ("math", ["percentage", "round", "ceil", "floor", "abs", "min", "max", "unit", "random"]),
    ("string", ["quote", "unquote", "to-upper-case", "to-lower-case", "unique-id"]),
    ("selector", ["is-superselector", "simple-selectors"]),
    ("meta", ["inspect", "type-of", "feature-exists", "keywords", "variable-exists",
      "global-variable-exists", "function-exists", "mixin-exists", "content-exists",
      "get-function", "call"])]

/-- The functions that have other names without a module. -/
def otherNames : List (String × String × String) :=
  [("list-separator", "list", "separator"), ("map-get", "map", "get"),
    ("map-has-key", "map", "has-key"), ("map-merge", "map", "merge"), ("map-keys", "map", "keys"),
    ("map-values", "map", "values"), ("map-remove", "map", "remove"),
    ("unitless", "math", "is-unitless"), ("comparable", "math", "compatible"),
    ("str-length", "string", "length"), ("str-slice", "string", "slice"),
    ("str-index", "string", "index"), ("str-insert", "string", "insert"),
    ("selector-nest", "selector", "nest"), ("selector-append", "selector", "append"),
    ("selector-extend", "selector", "extend"), ("selector-replace", "selector", "replace"),
    ("selector-unify", "selector", "unify"), ("selector-parse", "selector", "parse")]

/-- A function of a table. -/
def inTable? (table : Functions) (name : Text) : Option (Builtin Value) :=
  (table.find? fun f => f.1.toList == name).map (·.2)

/-- The module and the name there of a function that needs no module. -/
def withoutModule? (name : Text) : Option (Text × Text) :=
  match sameNames.find? fun s => s.2.any fun n => n.toList == name with
  | some (module, _) => some (module.toList, name)
  | none =>
    (otherNames.find? fun o => o.1.toList == name).map fun (_, module, n) =>
      (module.toList, n.toList)

/-- **The function of a name**, in a module or in none. -/
def find? (module name : Text) : Option (Builtin Value) :=
  if module = [] then
    match withoutModule? name with
    | some (m, n) => inTable? (ofModule m) n
    | none => inTable? oldColors name
  else inTable? (ofModule module) name

/-- Whether a function looks at the names around the call. -/
def isLooker (module name : Text) : Bool :=
  (module == ("meta" : Text) && lookers.any fun n => n.toList == name)
    || (module.isEmpty && (withoutModule? name).any (·.1 == ("meta" : Text))
      && lookers.any fun n => n.toList == name)

/-- Whether there is a function of a name, in a module or in none. -/
def isThere (module name : Text) : Bool := isLooker module name || (find? module name).isSome

/-- The names of all functions of a module. -/
def namesIn (module : Text) : List Text :=
  (ofModule module).map (·.1.toList)
    ++ if module = ("meta" : Text) then lookers.map String.toList else []

/-- A variable of a module that is always there. -/
def constant? (module name : Text) : Option Value :=
  if module = ("math" : Text) then
    (mathVariables.find? fun v => v.1.toList == name).map (·.2)
  else none

end ModuleHooks.Sass.Function
