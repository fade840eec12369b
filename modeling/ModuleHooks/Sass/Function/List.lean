import ModuleHooks.Sass.Function.Basic
/-!
# Functions of lists and maps
-/

namespace ModuleHooks.Sass.Function

open Sass.Builtin

/-- The position that a number means in a list; numbers below nought count from the end. -/
def listIndex (name : Text) (n : Number) (length : Nat) : Builtin Nat := do
  if n.value.isZero then failArg name "List index may not be 0."
  else if Binary.lt (whole length) n.value.abs then
    failArg name ("Invalid index ".toList ++ n.write ++ " for a list with ".toList
      ++ Text.ofNat length ++ " elements.".toList)
  else
    let i ← asInt name n
    return if i > 0 then (i - 1).toNat else (length + i).toNat

/-- A value as a list to which more is added: its items, what stands between them, and
whether it is in square brackets. Only a list has several items, and a map, if it is taken
as one. -/
def parts (fromMap : Bool) : Value → List Value × Separator × Bool
  | .list items s b => (items, s, b)
  | .map entries => if fromMap then ((Value.map entries).items, .comma, false) else ([.map entries], .undecided, false)
  | v => ([v], .undecided, false)

/-- A separator by its name; `auto` stands for another one. -/
def separatorOf (v : Value) (auto : Separator) : Builtin Separator := do
  let (t, _) ← asText "separator" v
  match t.toString with
  | "auto" => return auto
  | "comma" => return .comma
  | "space" => return .space
  | "slash" => return .slash
  | _ => failArg "separator" "Must be \"space\", \"comma\", \"slash\", or \"auto\"."

/-- The item at a position. -/
def nth : Builtin Value := do
  atMost 2
  let list := (← arg 0 "list").items
  let i ← listIndex "n" (← number 1 "n") list.length
  return list.getD i .null

/-- The list with another item at a position. -/
def setNth : Builtin Value := do
  atMost 3
  let list ← arg 0 "list"
  let n ← number 1 "n"
  if !n.value.isZero then
    let _ ← asInt "n" n
  let i ← listIndex "n" n list.items.length
  let v ← arg 2 "value"
  let s :=
    match list with
    | .list _ s _ => s
    | .map _ => .comma
    | .arguments .. => .comma
    | _ => .undecided
  return .list (list.items.set i v) s list.isBracketed

/-- The list with one more item. -/
def append : Builtin Value := do
  atMost 3
  let (items, own, isBracketed) := parts false (← arg 0 "list")
  let v ← arg 1 "val"
  let own := if own = .undecided then Separator.space else own
  let s ← separatorOf (← argOr 2 "separator" (.word "auto")) own
  return .list (items ++ [v]) s isBracketed

/-- Two lists, one after the other. -/
def join : Builtin Value := do
  atMost 4
  let (items, first, inBrackets) := parts true (← arg 0 "list1")
  let (more, second, _) := parts true (← arg 1 "list2")
  let own :=
    if first != .undecided then first
    else if second != .undecided then second
    else .space
  let s ← separatorOf (← argOr 2 "separator" (.word "auto")) own
  let bracketed ← argOr 3 "bracketed" (.word "auto")
  let isBracketed :=
    match bracketed with
    | .text t _ => if t = ("auto" : Text) then inBrackets else true
    | v => v.isTruthy
  return .list (items ++ more) s isBracketed

/-- The position of a value in a list. -/
def index : Builtin Value := do
  atMost 2
  let list := (← arg 0 "list").items
  let v ← arg 1 "value"
  match list.findIdx? fun x => x.same v with
  | some i => return .number (.ofInt (i + 1))
  | none => return .null

/-- The first items of all lists, then the second ones, and so on, as long as there are
such in all of them. -/
def zip : Builtin Value := do
  let lists := (← all).map Value.items
  let length := ((lists.map List.length).min?).getD 0
  let rows := (List.range length).map fun i =>
    Value.list (lists.map fun l => l.getD i .null) .space false
  return .list rows .comma false

/-- What stands between the items of a list. -/
def listSeparator : Builtin Value := do
  atMost 1
  return .word <|
    match ← arg 0 "list" with
    | .arguments .. => "comma"
    | v =>
      match v.separator with
      | .comma => "comma"
      | .slash => "slash"
      | _ => "space"

/-- Values with slashes between them. A value that is given alone is a list of them. -/
def slash : Builtin Value := do
  atLeastOne
  let list ← if (← count) = 1 then pure (← arg 0 "elements").items else all
  if list.length < 2 then fail "At least two elements are required."
  else return .list list .slash false

/-- **The functions of lists**, by their names in their module. -/
def lists : Functions :=
  [("append", append), ("index", index), ("join", join), ("nth", nth), ("set-nth", setNth),
    ("zip", zip), ("separator", listSeparator), ("slash", slash),
    ("length", do
      atMost 1
      return .number (.ofInt (← arg 0 "list").items.length)),
    ("is-bracketed", do
      atMost 1
      return .truth (← arg 0 "list").isBracketed)]

/-! ## Maps -/

/-- The value that some keys lead to, from map to map. -/
def follow : List Value → List (Value × Value) → Option Value
  | [], _ => none
  | [k], m => Value.find? k m
  | k :: ks, m => (Value.find? k m).bind fun v => v.entries?.bind (follow ks)

/-- A map, the first of the keys, and all of them. -/
def mapAndKeys : Builtin (List (Value × Value) × List Value) := do
  let key ← arg 1 "key"
  let m ← map 0 "map"
  let more ← others [(1, "key"), (0, "map")]
  return (m, key :: more)

/-- The value of a key. -/
def mapGet : Builtin Value := do
  let (m, keys) ← mapAndKeys
  return (follow keys m).getD .null

/-- Whether there is a value of a key. -/
def mapHasKey : Builtin Value := do
  let (m, keys) ← mapAndKeys
  return .truth (follow keys m).isSome

/-- The entries of both maps; those of the second one win. -/
def mergeEntries (a b : List (Value × Value)) : List (Value × Value) :=
  b.foldl (fun m e => Value.insert e.1 e.2 m) a

/-- A map with the value changed that some keys lead to. -/
def alterAt (f : Option Value → Value) : List Value → List (Value × Value) → List (Value × Value)
  | [], m => m
  | [k], m => Value.insert k (f (Value.find? k m)) m
  | k :: ks, m =>
    let inner := ((Value.find? k m).bind Value.entries?).getD []
    Value.insert k (.map (alterAt f ks inner)) m

/-- The entries of two maps. Keys between them lead to the map that is changed. -/
def mapMerge : Builtin Value := do
  let n ← count
  if n = 1 then fail "Expected $args to contain a key."
  else
    let a ← map 0 "map1"
    let b ← asMap "map2" (← arg (n - 1) "map2")
    let keys ← others [(0, "map1"), (n - 1, "map2")]
    let put (v : Option Value) : Value := .map (mergeEntries ((v.bind Value.entries?).getD []) b)
    return .map (if keys.isEmpty then mergeEntries a b else alterAt put keys a)

/-- The map without some keys. -/
def mapRemove : Builtin Value := do
  let m ← map 0 "map"
  let keys ← others [(0, "map")]
  return .map (m.filter fun e => !(keys.any fun k => e.1.same k))

/-- An argument at a position; the first position holds nothing any more where the map was
taken from it. -/
def afterMap (i : Nat) (name : Text) : Builtin Value := do
  let g ← read
  let isTaken := i = 0 && (Text.lookup? name g.named).isNone && (Text.lookup? "map" g.named).isNone
  if isTaken then return .null else arg i name

/-- The map with another value for a key, the last but one of the arguments. Keys before
it lead to the map that is changed. -/
def mapSet : Builtin Value := do
  let n ← count
  let m ← map 0 "map"
  let k ← afterMap (n - 2) "key"
  let v ← afterMap (n - 1) "value"
  let keys ← others [(0, "map"), (n - 2, "key"), (n - 1, "value")]
  return .map (alterAt (fun _ => v) (keys ++ [k]) m)

/-- The entries of both maps, and of the maps in them. The first argument bounds how deep
maps are in each other. -/
def deepMergeEntries : Nat → List (Value × Value) → List (Value × Value) → List (Value × Value)
  | 0, a, b => mergeEntries a b
  | n + 1, a, b =>
    b.foldl
      (fun m (k, v) =>
        match (Value.find? k m).bind Value.entries?, v.entries? with
        | some inner, some other =>
          Value.insert k (.map (deepMergeEntries n inner other)) m
        | _, _ => Value.insert k v m)
      a

/-- The entries of both maps, and of the maps in them. -/
def deepMerge : Builtin Value := do
  atMost 2
  let a ← map 0 "map1"
  let b ← map 1 "map2"
  return .map (deepMergeEntries 64 a b)

/-- A map without the entry that some keys lead to. -/
def removeAt : List Value → List (Value × Value) → List (Value × Value)
  | [], m => m
  | [k], m => m.filter fun e => !e.1.same k
  | k :: ks, m =>
    match (Value.find? k m).bind Value.entries? with
    | some inner => Value.insert k (.map (removeAt ks inner)) m
    | none => m

/-- The map without the entry that some keys lead to. -/
def deepRemove : Builtin Value := do
  let (m, keys) ← mapAndKeys
  return .map (removeAt keys m)

/-- **The functions of maps**, by their names in their module. -/
def maps : Functions :=
  [("get", mapGet), ("has-key", mapHasKey), ("merge", mapMerge), ("remove", mapRemove),
    ("set", mapSet), ("deep-merge", deepMerge), ("deep-remove", deepRemove),
    ("keys", do
      atMost 1
      return .list ((← map 0 "map").map (·.1)) .comma false),
    ("values", do
      atMost 1
      return .list ((← map 0 "map").map (·.2)) .comma false)]

end ModuleHooks.Sass.Function
