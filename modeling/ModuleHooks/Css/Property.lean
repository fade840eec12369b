import ModuleHooks.Css.Value.Drawing
import ModuleHooks.Css.Value.Frame
import ModuleHooks.Css.Value.Grid
import ModuleHooks.Css.Value.Interface
import ModuleHooks.Css.Value.Motion
import ModuleHooks.Css.Value.Shape
import ModuleHooks.Css.Value.Type
/-!
# Properties

The properties whose values are understood, each with the reading of its value and the
vendors whose mark its name may have in front. Names of properties are written in lower
case if they are known.
-/

namespace ModuleHooks.Css

namespace Property

open Value

/-- A name with each of some endings. -/
def family (stem : String) (ends : List String) : List String := ends.map (stem ++ ·)

/-- The names of the four sides, by direction and by flow. -/
def sideNames : List String :=
  ["top", "right", "bottom", "left", "block-start", "block-end", "inline-start", "inline-end"]

/-- The names of a property of each side. -/
def eachSide (stem ending : String) : List String := sideNames.map fun s => stem ++ s ++ ending

/-- The names of a property of both axes of the flow. -/
def eachAxis (stem ending : String) : List String := ["block", "inline"].map (stem ++ · ++ ending)

/-- **The vendors that put their mark in front of names.** -/
inductive Vendor where
  | webkit
  | moz
  | ms
  | o
  deriving DecidableEq, Repr

/-- The mark of a vendor. -/
def Vendor.mark : Vendor → Text
  | .webkit => "-webkit-"
  | .moz => "-moz-"
  | .ms => "-ms-"
  | .o => "-o-"

/-- All vendors. -/
def Vendor.all : List Vendor := [.webkit, .moz, .ms, .o]

/-- **Properties that read their values alike.** -/
structure Group where
  names : List String
  reading : ValueReading
  /-- The vendors whose mark may be in front of the names. -/
  vendors : List Vendor := []
  /-- Whether the names are known without a mark. -/
  isStandard : Bool := true

/-- Colours. -/
def colorGroups : List Group :=
  [{ names := ["color", "background-color", "outline-color"] ++ eachSide "border-" "-color",
      reading := color },
    { names := ["text-decoration-color"], reading := color, vendors := [.webkit, .moz] },
    { names := ["text-emphasis-color"], reading := color, vendors := [.webkit] },
    { names := ["border-color"], reading := sides color },
    { names := eachAxis "border-" "-color", reading := pair color },
    { names := ["caret-color", "accent-color"], reading := colorOrAuto },
    { names := ["color-scheme"], reading := colorScheme },
    { names := ["print-color-adjust"], reading := keywords ["economy", "exact"],
      vendors := [.webkit] }]

/-- Sizes and what is around a box. -/
def boxGroups : List Group :=
  [{ names := ["width", "height", "block-size", "inline-size", "min-width", "min-height",
        "min-block-size", "min-inline-size"], reading := size "auto" },
    { names := ["max-width", "max-height", "max-block-size", "max-inline-size"],
      reading := size "none" },
    { names := ["box-sizing"], reading := keywords ["content-box", "border-box"],
      vendors := [.webkit, .moz] },
    { names := ["aspect-ratio"], reading := aspectRatio },
    { names := ["container"], reading := container },
    { names := ["container-name"], reading := authorNames },
    { names := ["container-type"], reading := containerType },
    { names := ["top", "right", "bottom", "left"] ++
        (sideNames.drop 4).map ("inset-" ++ ·) ++ eachSide "margin-" "" ++
        eachSide "padding-" "" ++ eachSide "scroll-padding-" "" ++ eachSide "scroll-margin-" "",
      reading := lengthOr ["auto"] },
    { names := eachAxis "inset-" "" ++ eachAxis "margin-" "" ++ eachAxis "padding-" "" ++
        eachAxis "scroll-padding-" "" ++ eachAxis "scroll-margin-" "",
      reading := pair (lengthOr ["auto"]) },
    { names := ["inset", "margin", "padding", "scroll-padding", "scroll-margin"],
      reading := sides (lengthOr ["auto"]) },
    { names := eachSide "border-" "-width", reading := lineWidth },
    { names := ["border-width"], reading := sides lineWidth },
    { names := eachAxis "border-" "-width", reading := pair lineWidth },
    { names := eachSide "border-" "-style", reading := keywords lineStyles },
    { names := ["border-style"], reading := sides (keywords lineStyles) },
    { names := eachAxis "border-" "-style", reading := pair (keywords lineStyles) },
    { names := "border" :: eachSide "border-" "" ++ eachAxis "border-" "",
      reading := line lineStyles },
    { names := ["outline"], reading := line ("auto" :: lineStyles) },
    { names := ["outline-width"], reading := lineWidth },
    { names := ["outline-style"], reading := keywords ("auto" :: lineStyles) },
    { names := ["border-radius"], reading := radii, vendors := [.webkit, .moz] },
    { names := family "border-" ["top-left-radius", "top-right-radius", "bottom-left-radius",
        "bottom-right-radius"], reading := pair lengthPercentage, vendors := [.webkit, .moz] },
    { names := family "border-" ["start-start-radius", "start-end-radius", "end-start-radius",
        "end-end-radius"], reading := pair lengthPercentage },
    { names := ["border-spacing"], reading := pair length },
    { names := ["box-shadow"], reading := list (shadow 4 true), vendors := [.webkit, .moz] },
    { names := ["text-shadow"], reading := list (shadow 4 false) },
    { names := ["box-decoration-break"], reading := keywords ["slice", "clone"],
      vendors := [.webkit] }]

/-- How boxes are shown and placed. -/
def layoutGroups : List Group :=
  [{ names := ["display"], reading := display },
    { names := ["visibility"], reading := keywords ["visible", "hidden", "collapse"] },
    { names := ["position"],
      reading := keywords ["static", "relative", "absolute", "sticky", "-webkit-sticky",
        "fixed"] },
    { names := ["overflow"], reading := pair overflow },
    { names := ["overflow-x", "overflow-y"], reading := overflow },
    { names := ["text-overflow"], reading := keywords ["clip", "ellipsis"], vendors := [.o] },
    { names := ["z-index"], reading := either (keywords ["auto"]) integer },
    { names := ["opacity", "fill-opacity", "stroke-opacity"], reading := opacity },
    { names := ["align-content"], reading := alignContent, vendors := [.webkit] },
    { names := ["justify-content"], reading := justifyContent, vendors := [.webkit] },
    { names := ["place-content"], reading := placedContent },
    { names := ["align-items"], reading := alignItems ["normal", "stretch"],
      vendors := [.webkit] },
    { names := ["align-self"], reading := alignItems ["auto", "normal", "stretch"],
      vendors := [.webkit] },
    { names := ["justify-items"], reading := justifyItems ["normal", "stretch"] },
    { names := ["justify-self"], reading := justifySelf },
    { names := ["place-items"],
      reading := placed (alignItems ["normal", "stretch"]) (justifyItems ["normal", "stretch"]) },
    { names := ["place-self"],
      reading := placed (alignItems ["auto", "normal", "stretch"]) justifySelf },
    { names := ["row-gap", "column-gap"], reading := gap },
    { names := ["gap"], reading := pair gap },
    { names := ["grid-template-columns", "grid-template-rows"], reading := tracks },
    { names := ["grid-auto-columns", "grid-auto-rows"], reading := madeTracks },
    { names := ["grid-auto-flow"], reading := gridFlow },
    { names := ["grid-template-areas"], reading := areas },
    { names := ["grid-template"], reading := gridTemplate "grid-template: ".length },
    { names := ["grid"], reading := grid },
    { names := ["grid-row-start", "grid-row-end", "grid-column-start", "grid-column-end"],
      reading := do return (← gridLine).written },
    { names := ["grid-row", "grid-column"], reading := gridSpan },
    { names := ["grid-area"], reading := gridArea }]

/-- Flexible boxes, under the names of today and under those of earlier days. -/
def flexGroups : List Group :=
  let ways := ["start", "end", "center"]
  let baselines := ["baseline", "stretch"]
  let early (names : List String) (reading : ValueReading) : Group :=
    { names, reading, vendors := [.webkit, .moz], isStandard := false }
  let middle (names : List String) (reading : ValueReading) : Group :=
    { names, reading, vendors := [.ms], isStandard := false }
  [{ names := ["flex-direction"], reading := keywords flexDirections, vendors := [.webkit, .ms] },
    { names := ["flex-wrap"], reading := keywords flexWraps, vendors := [.webkit, .ms] },
    { names := ["flex-flow"], reading := flexFlow, vendors := [.webkit, .ms] },
    { names := ["flex"], reading := flex, vendors := [.webkit, .ms] },
    { names := ["flex-grow", "flex-shrink"], reading := number, vendors := [.webkit] },
    { names := ["flex-basis"], reading := lengthOr ["auto"], vendors := [.webkit] },
    { names := ["order"], reading := integer, vendors := [.webkit] },
    early ["box-orient"] (keywords ["horizontal", "vertical", "inline-axis", "block-axis"]),
    early ["box-direction"] (keywords ["normal", "reverse"]),
    early ["box-ordinal-group"] integer,
    early ["box-align"] (keywords (ways ++ baselines)),
    early ["box-flex"] number,
    early ["box-pack"] (keywords (ways ++ ["justify"])),
    early ["box-lines"] (keywords ["single", "multiple"]),
    { names := ["box-flex-group"], reading := integer, vendors := [.webkit], isStandard := false },
    middle ["flex-pack"] (keywords (ways ++ ["justify", "distribute"])),
    middle ["flex-order"] integer,
    middle ["flex-align"] (keywords (ways ++ baselines)),
    middle ["flex-item-align"] (keywords (["auto"] ++ ways ++ baselines)),
    middle ["flex-line-pack"] (keywords (ways ++ ["justify", "distribute", "stretch"])),
    middle ["flex-positive", "flex-negative"] number,
    middle ["flex-preferred-size"] (lengthOr ["auto"])]

/-- Backgrounds, masks and the frames of borders. -/
def paintGroups : List Group :=
  let masks (names : List String) (reading : ValueReading) : Group :=
    { names, reading, vendors := [.webkit] }
  let old (names : List String) (reading : ValueReading) : Group :=
    { names, reading, vendors := [.webkit], isStandard := false }
  [{ names := ["background"], reading := list background },
    { names := ["background-image"], reading := list image },
    { names := ["background-position"], reading := list position },
    { names := ["background-position-x", "mask-position-x"],
      reading := list (oneSpot "left" "right") },
    { names := ["background-position-y", "mask-position-y"],
      reading := list (oneSpot "top" "bottom") },
    { names := ["background-size"], reading := list backgroundSize },
    { names := ["background-repeat"], reading := list backgroundRepeat },
    { names := ["background-attachment"],
      reading := list (keywords ["scroll", "fixed", "local"]) },
    { names := ["background-origin"], reading := list (keywords backgroundBoxes) },
    { names := ["background-clip"], reading := list (keywords clipBoxes),
      vendors := [.webkit, .moz] },
    masks ["mask"] (list mask),
    masks ["mask-image"] (list image),
    masks ["mask-position"] (list position),
    masks ["mask-size"] (list backgroundSize),
    masks ["mask-repeat"] (list backgroundRepeat),
    masks ["mask-origin"] (list (keywords geometryBoxes)),
    masks ["mask-clip"] (list (keywords (geometryBoxes ++ ["no-clip"]))),
    { names := ["mask-mode"], reading := list (keywords maskModes) },
    { names := ["mask-composite"], reading := list (keywords maskComposites) },
    { names := ["mask-type"], reading := keywords maskFrameModes },
    old ["mask-source-type"] (list (keywords ["auto", "luminance", "alpha"])),
    { names := ["border-image"], reading := frame, vendors := [.webkit, .moz, .o] },
    { names := ["border-image-source", "mask-border-source"], reading := image },
    { names := ["border-image-slice", "mask-border-slice"], reading := frameSlice },
    { names := ["border-image-width", "mask-border-width"], reading := frameWidth },
    { names := ["border-image-outset", "mask-border-outset"], reading := frameOutset },
    { names := ["border-image-repeat", "mask-border-repeat"], reading := frameRepeat },
    { names := ["mask-border"], reading := maskFrame },
    { names := ["mask-border-mode"], reading := keywords maskFrameModes },
    old ["mask-box-image"] frame,
    old ["mask-box-image-source"] image,
    old ["mask-box-image-slice"] frameSlice,
    old ["mask-box-image-width"] frameWidth,
    old ["mask-box-image-outset"] frameOutset,
    old ["mask-box-image-repeat"] frameRepeat,
    { names := ["clip-path"], reading := clipPath, vendors := [.webkit] },
    { names := ["filter", "backdrop-filter"], reading := filter, vendors := [.webkit] }]

/-- Drawings. -/
def drawingGroups : List Group :=
  [{ names := ["fill", "stroke"], reading := outlinePaint },
    { names := ["fill-rule", "clip-rule"], reading := keywords fillRules },
    { names := ["stroke-width", "stroke-dashoffset"], reading := lengthPercentage },
    { names := ["stroke-linecap"], reading := keywords ["butt", "round", "square"] },
    { names := ["stroke-linejoin"],
      reading := keywords ["miter", "miter-clip", "round", "bevel", "arcs"] },
    { names := ["stroke-miterlimit"], reading := number },
    { names := ["stroke-dasharray"], reading := dashes },
    { names := ["marker", "marker-start", "marker-mid", "marker-end"], reading := marker },
    { names := ["color-interpolation", "color-interpolation-filters"], reading := interpolation },
    { names := ["color-rendering", "image-rendering"],
      reading := keywords ["auto", "optimizespeed", "optimizequality"] },
    { names := ["shape-rendering"],
      reading := keywords ["auto", "optimizespeed", "crispedges", "geometricprecision"] },
    { names := ["text-rendering"],
      reading := keywords ["auto", "optimizespeed", "optimizelegibility",
        "geometricprecision"] }]

/-- Fonts, text and lists. -/
def typeGroups : List Group :=
  [{ names := ["font"], reading := font },
    { names := ["font-family"], reading := list families },
    { names := ["font-size"], reading := fontSize },
    { names := ["font-weight"], reading := weight },
    { names := ["font-style"], reading := fontStyle },
    { names := ["font-stretch"], reading := fontStretch },
    { names := ["font-variant-caps"], reading := keywords capsNames },
    { names := ["font-palette"], reading := plain do return writeIdent (← Reading.dashedIdent) },
    { names := ["line-height"], reading := lineHeight },
    { names := ["vertical-align"],
      reading := lengthOr ["baseline", "sub", "super", "top", "text-top", "middle", "bottom",
        "text-bottom"] },
    { names := ["list-style"], reading := listStyle },
    { names := ["list-style-type"], reading := listStyleType },
    { names := ["list-style-position"], reading := keywords ["inside", "outside"] },
    { names := ["list-style-image"], reading := image },
    { names := ["marker-side"], reading := keywords ["match-self", "match-parent"] },
    { names := ["text-transform"], reading := textTransform },
    { names := ["white-space"],
      reading := keywords ["normal", "pre", "nowrap", "pre-wrap", "break-spaces", "pre-line"] },
    { names := ["tab-size"], reading := numberOrLength, vendors := [.moz, .o] },
    { names := ["word-break"],
      reading := keywords ["normal", "keep-all", "break-all", "break-word"] },
    { names := ["line-break"],
      reading := keywords ["auto", "loose", "normal", "strict", "anywhere"] },
    { names := ["hyphens"], reading := keywords ["none", "manual", "auto"],
      vendors := [.webkit, .moz, .ms] },
    { names := ["overflow-wrap", "word-wrap"],
      reading := keywords ["normal", "break-word", "anywhere"] },
    { names := ["text-align"],
      reading := keywords ["start", "end", "left", "right", "center", "justify", "match-parent",
        "justify-all"] },
    { names := ["text-align-last"],
      reading := keywords ["auto", "start", "end", "left", "right", "center", "justify",
        "match-parent"], vendors := [.moz] },
    { names := ["text-justify"],
      reading := keywords ["auto", "none", "inter-word", "inter-character"] },
    { names := ["word-spacing", "letter-spacing"],
      reading := either (keywords ["normal"]) length },
    { names := ["text-indent"], reading := textIndent },
    { names := ["text-decoration-line"], reading := decorationLine, vendors := [.webkit, .moz] },
    { names := ["text-decoration-style"], reading := decorationStyle,
      vendors := [.webkit, .moz] },
    { names := ["text-decoration-thickness"], reading := lengthOr ["auto", "from-font"] },
    { names := ["text-decoration-skip-ink"], reading := keywords ["auto", "none", "all"],
      vendors := [.webkit] },
    { names := ["text-decoration"], reading := textDecoration, vendors := [.webkit, .moz] },
    { names := ["text-emphasis"], reading := emphasis, vendors := [.webkit] },
    { names := ["text-emphasis-style"], reading := emphasisStyle, vendors := [.webkit] },
    { names := ["text-emphasis-position"], reading := emphasisPosition, vendors := [.webkit] },
    { names := ["text-size-adjust"], reading := either (keywords ["auto", "none"]) percentage,
      vendors := [.webkit, .moz, .ms] },
    { names := ["direction"], reading := keywords ["ltr", "rtl"] },
    { names := ["unicode-bidi"],
      reading := keywords ["normal", "embed", "isolate", "bidi-override", "isolate-override",
        "plaintext"] }]
where
  /-- A family of fonts. -/
  families : ValueReading := Value.family

/-- How a page meets its user. -/
def interfaceGroups : List Group :=
  [{ names := ["resize"],
      reading := keywords ["none", "both", "horizontal", "vertical", "block", "inline"] },
    { names := ["cursor"], reading := cursor },
    { names := ["caret"], reading := caret },
    { names := ["caret-shape"], reading := keywords caretShapes },
    { names := ["user-select"], reading := keywords ["auto", "text", "none", "contain", "all"],
      vendors := [.webkit, .moz, .ms] },
    { names := ["appearance"], reading := keywords appearances, vendors := [.webkit, .moz, .ms] }]

/-- Transformations. -/
def transformGroups : List Group :=
  [{ names := ["transform"], reading := transform, vendors := Vendor.all },
    { names := ["transform-origin"], reading := position, vendors := Vendor.all },
    { names := ["perspective-origin"], reading := position, vendors := [.webkit, .moz] },
    { names := ["transform-style"], reading := keywords ["flat", "preserve-3d"],
      vendors := [.webkit, .moz] },
    { names := ["transform-box"],
      reading := keywords ["content-box", "border-box", "fill-box", "stroke-box", "view-box"] },
    { names := ["backface-visibility"], reading := keywords ["visible", "hidden"],
      vendors := [.webkit, .moz] },
    { names := ["perspective"], reading := either (keywords ["none"]) length,
      vendors := [.webkit, .moz] },
    { names := ["translate"], reading := translation },
    { names := ["rotate"], reading := rotation },
    { names := ["scale"], reading := scaling }]

/-- Transitions and animations; whether a property is known decides how its name is
written. -/
def motionGroups (known : Text → Bool) : List Group :=
  let transitions (names : List String) (reading : ValueReading) : Group :=
    { names, reading, vendors := [.webkit, .moz, .ms] }
  let animations (names : List String) (reading : ValueReading) : Group :=
    { names, reading, vendors := [.webkit, .moz, .o] }
  [transitions ["transition"] (list (transition known)),
    transitions ["transition-property"] (list (propertyName known)),
    transitions ["transition-duration", "transition-delay"] (list time),
    transitions ["transition-timing-function"] (list curve),
    animations ["animation"] (list animation),
    animations ["animation-name"] (list animationName),
    animations ["animation-duration", "animation-delay"] (list time),
    animations ["animation-timing-function"] (list curve),
    animations ["animation-iteration-count"] (list iterations),
    animations ["animation-direction"] (list (keywords directions)),
    animations ["animation-fill-mode"] (list (keywords fillings)),
    animations ["animation-play-state"] (list (keywords playStates)),
    { names := ["animation-composition"],
      reading := list (keywords ["replace", "add", "accumulate"]) },
    { names := ["animation-timeline"], reading := list timeline },
    { names := ["animation-range"], reading := list timelineRange },
    { names := ["animation-range-start"], reading := list rangeStart },
    { names := ["animation-range-end"], reading := list rangeEnd },
    { names := ["view-transition-name"], reading := either (keywords ["none", "auto"]) authorName },
    { names := ["view-transition-class"], reading := authorNames },
    { names := ["view-transition-group"],
      reading := either (keywords ["normal", "contain", "nearest"]) authorName }]

/-- The words that every property understands. -/
def wideWords : List String := ["initial", "inherit", "unset", "revert", "revert-layer"]

/-- The properties that are known by name only. -/
def otherNames : List String := ["all", "composes"]

/-- All groups, when nothing has to be known about other properties. -/
def plainGroups : List Group :=
  colorGroups ++ boxGroups ++ layoutGroups ++ flexGroups ++ paintGroups ++ drawingGroups ++
    typeGroups ++ interfaceGroups ++ transformGroups

/-- **A name and its vendor**, if it has the mark of one in front. -/
def splitVendor (name : Text) : Option Vendor × Text :=
  match Vendor.all.findSome? fun v => (Text.stripStart? v.mark name).map (v, ·) with
  | some (v, rest) => (some v, rest)
  | none => (none, name)

/-- Whether a group knows a name with the mark of a vendor in front. -/
def Group.knows (g : Group) (vendor : Option Vendor) (name : Text) : Bool :=
  (match vendor with
    | some v => g.vendors.contains v
    | none => g.isStandard) && g.names.any (·.toList == name)

/-- The group that knows a name. -/
def groupOf? (groups : List Group) (name : Text) : Option Group :=
  let (vendor, rest) := splitVendor name
  groups.find? (·.knows vendor rest)

/-- **Whether a name in lower case is that of a known property.** -/
def isKnown (name : Text) : Bool :=
  (groupOf? (plainGroups ++ motionGroups fun _ => false) name).isSome ||
    otherNames.any (·.toList == name)

/-- **The reading of the value of a property**, by its name in lower case. -/
def reading? (name : Text) : Option ValueReading :=
  (groupOf? (plainGroups ++ motionGroups isKnown) name).map (·.reading)

/-- **The value of a property**: as it is understood, or by its tokens. All properties
together understand only the words that each of them understands. -/
def value (name : Text) : ValueReading :=
  let unread : ValueReading := do return Written.text (← Reading.tokenList)
  if name = ("all" : Text) then keywords wideWords
  else
    match reading? name with
    | some r =>
      Value.either
        (do
          let w ← r
          Reading.finished
          return w)
        unread
    | none => unread

end Property

end ModuleHooks.Css
