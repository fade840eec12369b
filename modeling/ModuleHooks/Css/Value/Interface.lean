import ModuleHooks.Css.Value.Basic
/-!
# Interface

The values of the properties by which a page meets its user: cursors, carets, colour
schemes and the like.
-/

namespace ModuleHooks.Css.Value

open Reading

/-- The cursors that every system has. -/
def cursorNames : List String :=
  ["auto", "default", "none", "context-menu", "help", "pointer", "progress", "wait", "cell",
    "crosshair", "text", "vertical-text", "alias", "copy", "move", "no-drop", "not-allowed",
    "grab", "grabbing", "e-resize", "n-resize", "ne-resize", "nw-resize", "s-resize",
    "se-resize", "sw-resize", "w-resize", "ew-resize", "ns-resize", "nesw-resize",
    "nwse-resize", "col-resize", "row-resize", "all-scroll", "zoom-in", "zoom-out"]

/-- The image of a cursor, with the place in it that points. -/
def cursorImage : ValueReading := do
  let u ← urlWritten
  match ← attempt number with
  | some x => return Written.joined " " [u, x, ← number]
  | none => return u

/-- **A cursor**: images, and the one that is there anyway. -/
def cursor : ValueReading := do
  let images ← repeated do
    let image ← cursorImage
    comma
    return image
  return Written.joined ", " (images ++ [← keywords cursorNames])

/-- A colour, or the one that is chosen anyway. -/
def colorOrAuto : ValueReading := either (keywords ["auto"]) color

/-- The shapes of carets. -/
def caretShapes : List String := ["auto", "bar", "block", "underscore"]

/-- A caret: its colour and its shape. -/
def caret : ValueReading :=
  looseShorthand [(colorOrAuto, "auto"), (keywords caretShapes, "auto")]
    (Written.text ("auto" : Text))

/-- **Colour schemes**: light and dark ones, perhaps only those. The word for that comes
first or last. -/
def colorScheme : ValueReading := plain do
  match ← attempt (keyword "normal") with
  | some _ => return "normal"
  | none =>
    let schemes := keywordOf (["light", "dark"].map String.toList)
    let front ← attempt (keyword "only")
    let names ← repeated schemes
    let back ← if front.isNone then attempt (keyword "only") else pure none
    if front.isNone && names.isEmpty then failHere .invalidValue
    else
      let named : List Text :=
        (List.map String.toList ["light", "dark"]).filter fun t => List.elem t names
      let only : Text := if front.isSome || back.isSome then " only" else []
      return Text.join " " named ++ only

/-- The forms of controls. -/
def appearances : List String :=
  ["none", "auto", "textfield", "menulist-button", "button", "checkbox", "listbox", "menulist",
    "meter", "progress-bar", "push-button", "radio", "searchfield", "slider-horizontal",
    "square-button", "textarea"]

end ModuleHooks.Css.Value
