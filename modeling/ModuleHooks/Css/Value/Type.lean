import ModuleHooks.Css.Value.Paint
/-!
# Type

The values of the properties of fonts, text and lists.
-/

namespace ModuleHooks.Css.Value

open Reading

/-! ## Fonts -/

/-- The families that every system has. -/
def genericFamilies : List String :=
  ["serif", "sans-serif", "cursive", "fantasy", "monospace", "system-ui", "emoji", "math",
    "fangsong", "ui-serif", "ui-sans-serif", "ui-monospace", "ui-rounded", "initial", "inherit",
    "unset", "default", "revert", "revert-layer"]

/-- The name of a family: without quotes where it reads back the same and is shorter. -/
def writeFamily (name : Text) : Text :=
  if name = [] || Text.contains name "  " ||
      List.elem (Text.lowerAscii name) (genericFamilies.map String.toList) then
    writeString name
  else
    let words := (Text.splitOn ' ' name).map writeIdent
    let bare := Text.join " " words
    if bare.length < name.length + 2 then bare else writeString name

/-- The name of a family: a string, or words. -/
def familyName : Reading Text :=
  orTry string do
    let first ← ident
    return Text.join " " (first :: (← repeated ident))

/-- A family. -/
def family : ValueReading :=
  either (keywords genericFamilies) (plain do return writeFamily (← familyName))

/-- The weight of a font. -/
def weight : ValueReading := either (keywords ["normal", "bold", "bolder", "lighter"]) number

/-- The size of a font. -/
def fontSize : ValueReading :=
  lengthOr ["xx-small", "x-small", "small", "medium", "large", "x-large", "xx-large", "xxx-large",
    "smaller", "larger"]

/-- The widths of fonts that have a name. -/
def stretchNames : List String :=
  ["normal", "ultra-condensed", "extra-condensed", "condensed", "semi-condensed",
    "semi-expanded", "expanded", "extra-expanded", "ultra-expanded"]

/-- The width of a font. -/
def fontStretch : ValueReading := either (keywords stretchNames) percentage

/-- The slope of a font. -/
def fontStyle : ValueReading :=
  either (keywords ["normal", "italic"]) do
    keyword "oblique"
    match ← attempt (angle false) with
    | some a =>
      return Written.text
        (if a = ("14deg" : Text) then ("oblique" : Text) else ("oblique " : Text) ++ a)
    | none => return Written.text ("oblique" : Text)

/-- The forms of small letters. -/
def capsNames : List String :=
  ["normal", "small-caps", "all-small-caps", "petite-caps", "all-petite-caps", "unicase",
    "titling-caps"]

/-- The height of a line. -/
def lineHeight : ValueReading := either (keywords ["normal"]) (either number lengthPercentage)

/-- Reads the parts in front of the size of a font, with the number of words that stand
for none of them. -/
def fontFront : Nat → List (ValueReading × Option Written) →
    Reading (List (Option Written) × Nat)
  | 0, slots => return (slots.map (·.2), 0)
  | n + 1, slots => do
    match ← attempt (keyword "normal") with
    | some _ =>
      let (filled, count) ← fontFront n slots
      return (filled, count + 1)
    | none =>
      match ← fillOne slots with
      | some slots => fontFront n slots
      | none => return (slots.map (·.2), 0)

/-- **A font** in one value. -/
def font : ValueReading := do
  let slots := [fontStyle, weight, keywords ["small-caps"], keywords stretchNames]
  let (filled, count) ← fontFront 9 (slots.map (·, none))
  if count + (filled.filter Option.isSome).length > 4 then failHere .invalidDeclaration
  else
    let size ← fontSize
    let height ← attempt do
      delim '/'
      lineHeight
    let families ← list family
    let normal := Written.text ("normal" : Text)
    let style := filled.headD none
    let weight := (filled.drop 1).headD none
    let caps := (filled.drop 2).headD none
    let stretch := (filled.drop 3).headD none
    let front := telling ([style, caps, weight, stretch].map (·, normal))
    let height :=
      match telling [(height, normal)] with
      | [h] => .text " / " :: h
      | _ => []
    return Written.joined " " (front ++ [size ++ height, families])

/-! ## Lists -/

/-- The styles of counters that every system has. -/
def counterStyles : List String :=
  ["disc", "circle", "square", "disclosure-open", "disclosure-closed", "decimal",
    "decimal-leading-zero", "arabic-indic", "armenian", "upper-armenian", "lower-armenian",
    "bengali", "cambodian", "khmer", "cjk-decimal", "devanagari", "georgian", "gujarati",
    "gurmukhi", "hebrew", "kannada", "lao", "malayalam", "mongolian", "myanmar", "oriya",
    "persian", "lower-roman", "upper-roman", "tamil", "telugu", "thai", "tibetan", "lower-alpha",
    "lower-latin", "upper-alpha", "upper-latin", "lower-greek", "hiragana", "hiragana-iroha",
    "katakana", "katakana-iroha", "cjk-earthly-branch", "cjk-heavenly-stem",
    "japanese-informal", "japanese-formal", "korean-hangul-formal", "korean-hanja-informal",
    "korean-hanja-formal", "simp-chinese-informal", "simp-chinese-formal",
    "trad-chinese-informal", "trad-chinese-formal", "ethiopic-numeric"]

/-- A string, written. -/
def stringWritten : ValueReading := plain do return writeString (← string)

/-- A counter style that is made of symbols, with its system unless that is the usual
one. -/
def symbols : ValueReading := do
  let c ← functionOf "symbols"
  inside c do
    let system ← attempt (keywords ["cyclic", "numeric", "alphabetic", "symbolic", "fixed"])
    let marks ← sequence (either stringWritten image)
    return Written.call "symbols"
      (Written.joined " " (telling [(system, Written.text ("symbolic" : Text))] ++ [marks]))

/-- The marker of a list item. -/
def listStyleType : ValueReading :=
  either (keywords ("none" :: counterStyles))
    (either stringWritten (either symbols do return Written.ofLocal (← authorIdent)))

/-- The markers of a list: place, image and style. -/
def listStyle : ValueReading := do
  match ← looseOrder [keywords ["inside", "outside"], otherType, image, keywords ["none"]] with
  | [place, kind, image, other] =>
    let noneWritten := Written.text ("none" : Text)
    let kind :=
      if kind.isSome then kind else if image = some noneWritten then image else other
    let said := telling [(place, Written.text ("outside" : Text)), (image, noneWritten),
      (kind, Written.text ("disc" : Text))]
    return if said = [] then Written.text ("outside" : Text) else Written.joined " " said
  | _ => failHere .invalidDeclaration
where
  /-- A marker other than none. -/
  otherType : ValueReading :=
    either (keywords counterStyles) (either stringWritten (either symbols do
      let name ← authorIdent
      if List.elem (Text.lowerAscii name) (["none", "inside", "outside"].map String.toList) then
        failHere .invalidValue
      else return Written.ofLocal name))

/-! ## Text -/

/-- The lines at a text. -/
def decorationLine : ValueReading :=
  either (keywords ["none", "spelling-error", "grammar-error"]) do
    let found ← anyOrder [keywords ["underline"], keywords ["overline"],
      keywords ["line-through"], keywords ["blink"]]
    return Written.joined " " (found.filterMap id)

/-- The styles of lines at a text. -/
def decorationStyle : ValueReading := keywords ["solid", "double", "dotted", "dashed", "wavy"]

/-- The decoration of a text. -/
def textDecoration : ValueReading := do
  let noneWritten := Written.text ("none" : Text)
  match ← looseOrder [decorationLine, lengthOr ["auto", "from-font"], decorationStyle,
      color] with
  | [line, thickness, style, shade] =>
    let line := line.getD noneWritten
    if line = noneWritten then return noneWritten
    else
      return Written.joined " " (line :: telling [(thickness, Written.text ("auto" : Text)),
        (style, Written.text ("solid" : Text)), (shade, Written.text ("currentColor" : Text))])
  | _ => failHere .invalidDeclaration

/-- The change of letters of a text. -/
def textTransform : ValueReading :=
  either (keywords ["none"]) do
    let found ← anyOrder [keywords ["uppercase", "lowercase", "capitalize"],
      keywords ["full-width"], keywords ["full-size-kana"]]
    return Written.joined " " (found.filterMap id)

/-- The space in front of the first line. -/
def textIndent : ValueReading := do
  match ← anyOrder [lengthPercentage, keywords ["hanging"], keywords ["each-line"]] with
  | some l :: more => return Written.joined " " (l :: more.filterMap id)
  | _ => failHere .invalidValue

/-! ### Emphasis -/

/-- The shapes of marks of emphasis. -/
def emphasisShapes : List String := ["dot", "circle", "double-circle", "triangle", "sesame"]

/-- A mark of emphasis: a shape that is filled unless something else is said, or a
string. -/
def emphasisStyle : ValueReading :=
  either (keywords ["none"]) (either stringWritten do
    match ← anyOrder [keywords emphasisShapes, keywords ["filled", "open"]] with
    | [shape, fill] =>
      let filled := Written.text ("filled" : Text)
      let fill := fill.getD filled
      let said := if fill ≠ filled || shape.isNone then [fill] else []
      return Written.joined " " (said ++ shape.toList)
    | _ => failHere .invalidDeclaration)

/-- **Marks of emphasis and their colour.** -/
def emphasis : ValueReading := do
  match ← looseOrder [emphasisStyle, color] with
  | [style, shade] =>
    let noneWritten := Written.text ("none" : Text)
    let style := style.getD noneWritten
    if style = noneWritten then return style
    else
      return Written.joined " "
        (style :: telling [(shade, Written.text ("currentColor" : Text))])
  | _ => failHere .invalidDeclaration

/-- Where marks of emphasis are: above or below, and on the right unless something else is
said. -/
def emphasisPosition : ValueReading := do
  match ← anyOrder [keywords ["over", "under"], keywords ["left", "right"]] with
  | [some vertical, horizontal] =>
    return Written.joined " "
      (vertical :: telling [(horizontal, Written.text ("right" : Text))])
  | _ => failHere .invalidValue

end ModuleHooks.Css.Value
