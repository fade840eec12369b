import ModuleHooks.Config.Basic
import ModuleHooks.Css.Scoping
import ModuleHooks.Emission.Basic
import ModuleHooks.Text.Case
/-!
# Class maps

The exports of a scoped stylesheet as a map from keys to class names. A key is the local
name as authored or in camel case; its value is the scoped name followed by all names
composed with it. Exports are taken in the order of their local names, so when two of
them come to the same key the later one wins.
-/

namespace ModuleHooks

/-- Whether a character separates the words of a class name. -/
def isWordBreak (c : Char) : Bool := c == '-' || c == '_'

/-- The words of a class name. -/
def classWords (name : Text) : List Text :=
  (Text.splitBy isWordBreak name).filter (· != [])

/-- A word with its first character in lower case. -/
def uncapitalised : Text → Text
  | [] => []
  | c :: r => Text.lowerChar c ++ r

/-- A word with its first character in upper case. -/
def capitalised : Text → Text
  | [] => []
  | c :: r => Text.upperChar c ++ r

/-- **The camel case of a class name.** -/
def camelCase (name : Text) : Text :=
  match classWords name with
  | [] => []
  | w :: ws => uncapitalised w ++ ws.flatMap capitalised

namespace ClassMap

/-- The key of a local name. -/
def key (convention : LocalsConvention) (name : Text) : Text :=
  match convention with
  | .asIs => name
  | .camelCaseOnly => camelCase name

/-- The class names that an export stands for. -/
def value (e : Css.Export) : Text :=
  Text.join " " (e.name :: e.composes.map Css.Reference.name)

/-- **The class map of a stylesheet's exports.** -/
def ofExports (convention : LocalsConvention) (exports : Css.Exports) : ClassMap :=
  let sorted : Css.Exports := exports.foldl (fun l e => Text.insertSorted e.1 e.2 l) []
  sorted.foldl (fun m e => Text.insertSorted (key convention e.1) (value e.2) m) []

end ClassMap

end ModuleHooks
