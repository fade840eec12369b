import ModuleHooks.FileSystem.Basic
import ModuleHooks.Json.Basic
/-!
# Package manifests

The part of a `package.json` that resolution looks at. A manifest is usable only as a
whole: one field of a wrong type, or one that is given twice, spoils the file.
-/

namespace ModuleHooks

/-- **A package manifest.** -/
structure Manifest where
  /-- The entry file. -/
  main : Option Text := none
  /-- The entry that `exports` gives, when it is one text. -/
  exportsEntry : Option Text := none
  /-- The kind of modules of the package. -/
  kind : Option Text := none
  deriving DecidableEq, Repr

namespace Manifest

/-- The values of a name in an object. -/
def valuesOf (name : Text) (members : List (Text × Json)) : List Json :=
  (members.filter fun m => m.1 == name).map (·.2)

/-- A field that is a text or null: `none` when it is anything else. -/
def textField? : Json → Option (Option Text)
  | .null => some none
  | .string t => some (some t)
  | _ => none

/-- The entry that a value of `exports` gives: a text, or the text under the name `.`. -/
def entryOf : Json → Option Text
  | .string t => some t
  | .object members =>
    match (valuesOf ['.'] members).getLast? with
    | some (.string t) => some t
    | _ => none
  | _ => none

/-- The manifest of three values. -/
def ofFields (main exports kind : Json) : Option Manifest := do
  let main ← textField? main
  let kind ← textField? kind
  return { main, exportsEntry := entryOf exports, kind }

/-- The single value of a name, null if it is missing, and nothing if it is repeated. -/
def single? (name : Text) (members : List (Text × Json)) : Option Json :=
  match valuesOf name members with
  | [] => some .null
  | [v] => some v
  | _ => none

/-- **The manifest that a document describes.** The three fields may also stand in an
array, in order. -/
def ofJson : Json → Option Manifest
  | .object members => do
    let main ← single? "main" members
    let exports ← single? "exports" members
    let kind ← single? "type" members
    ofFields main exports kind
  | .array [main, exports, kind] => ofFields main exports kind
  | _ => none

/-- The names of the fields. -/
def fieldNames : List Text := List.map String.toList ["main", "exports", "type"]

/-- The manifest at a path, when there is a usable one. -/
def read? (fs : FileSystem) (p : Path) : Option Manifest :=
  match fs.readText p with
  | .ok t => (Json.parse? fieldNames t).bind ofJson
  | .error _ => none

/-- **The entry of a package**: that of `exports`, else the main file. -/
def entry (m : Manifest) : Option Text := m.exportsEntry.or m.main

end Manifest

end ModuleHooks
