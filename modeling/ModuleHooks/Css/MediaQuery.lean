import ModuleHooks.Css.Value.Basic
/-!
# Media queries

Queries of the device that shows a page, and of the box that holds an element. A query
joins features by `and`, `or` and `not`; the older names with `min-` and `max-` become
comparisons.
-/

namespace ModuleHooks.Css

/-- **What kind of value a feature has.** -/
inductive FeatureKind where
  | length
  | number
  | integer
  | boolean
  | resolution
  | ratio
  | ident
  | unknown
  deriving DecidableEq, Repr

/-- Whether values of a kind are in an order. -/
def FeatureKind.isOrdered : FeatureKind → Bool
  | .boolean => false
  | .ident => false
  | _ => true

/-- **A feature that is asked for.** -/
structure Feature where
  /-- The feature, written with its brackets if it has some of its own. -/
  written : Text
  /-- Whether it has none. -/
  isBare : Bool := false
  /-- The feature that is there just when this one is not, if there is one. -/
  opposite : Option Text := none
  deriving DecidableEq, Repr

/-- **A condition.** -/
inductive Condition where
  | feature (f : Feature)
  | not (c : Condition)
  /-- Conditions joined by one word. -/
  | joined (word : Text) (first : Condition) (more : List Condition)
  deriving Repr

/-- **A media query.** -/
structure MediaQuery where
  /-- `not` or `only`. -/
  qualifier : Option Text := none
  /-- The kind of device; none stands for all of them. -/
  device : Option Text := none
  condition : Option Condition := none
  deriving Repr

namespace Condition

/-- Whether a condition joins others by another word than the given one. -/
def needsBrackets (word : Option Text) : Condition → Bool
  | .feature f => f.isBare
  | .not _ => true
  | .joined w _ _ => word ≠ some w

/-- A text, in brackets if they are needed. -/
def bracketIf (needed : Bool) (t : Text) : Text := if needed then '(' :: t ++ [')'] else t

mutual

/-- A condition, written. With `isShort` what is not the case is said by its opposite where
there is one. -/
def write (isShort : Bool) : Condition → Text
  | .feature f => f.written
  | .not (.not c) =>
    if isShort then write isShort c
    else ("not " : Text) ++ '(' :: write isShort (.not c) ++ [')']
  | .not (.feature f) =>
    let long := ("not " : Text) ++ bracketIf f.isBare f.written
    if isShort then f.opposite.getD long else long
  | .not (.joined word first more) =>
    ("not " : Text) ++ '(' :: write isShort (.joined word first more) ++ [')']
  | .joined word first more =>
    bracketIf (needsBrackets (some word) first) (write isShort first) ++
      writeMore isShort word more

/-- Further conditions with the word that joins them. -/
def writeMore (isShort : Bool) (word : Text) : List Condition → Text
  | [] => []
  | c :: r =>
    ' ' :: word ++ ' ' :: bracketIf (needsBrackets (some word) c) (write isShort c) ++
      writeMore isShort word r

end

/-- Whether a condition needs brackets after a kind of device. -/
def isAlternative : Condition → Bool
  | .joined word _ _ => word ≠ ("and" : Text)
  | _ => false

end Condition

/-- **A media query, written.** -/
def MediaQuery.write (q : MediaQuery) : Text :=
  let qualifier : Text := (q.qualifier.map (· ++ [' '])).getD []
  let device : Text :=
    match q.device with
    | some d => d
    | none => if q.qualifier.isSome || q.condition.isNone then "all" else []
  let condition : Text :=
    match q.condition with
    | none => []
    | some c =>
      if q.device.isSome || q.qualifier.isSome then
        (" and " : Text) ++ Condition.bracketIf c.isAlternative (c.write true)
      else c.write true
  qualifier ++ device ++ condition

/-- Media queries, written; none of them is ever true. -/
def writeMedia (qs : List MediaQuery) : Text :=
  if qs.isEmpty then "not all" else Text.join ", " (qs.map MediaQuery.write)

/-! ## Features -/

/-- The features of a device. -/
def mediaFeatures : List (String × FeatureKind) :=
  [("width", .length), ("height", .length), ("aspect-ratio", .ratio), ("orientation", .ident),
    ("overflow-block", .ident), ("overflow-inline", .ident),
    ("horizontal-viewport-segments", .integer), ("vertical-viewport-segments", .integer),
    ("display-mode", .ident), ("resolution", .resolution), ("scan", .ident), ("grid", .boolean),
    ("update", .ident), ("environment-blending", .ident), ("color", .integer),
    ("color-index", .integer), ("monochrome", .integer), ("color-gamut", .ident),
    ("dynamic-range", .ident), ("inverted-colors", .ident), ("pointer", .ident),
    ("hover", .ident), ("any-pointer", .ident), ("any-hover", .ident), ("nav-controls", .ident),
    ("video-color-gamut", .ident), ("video-dynamic-range", .ident), ("scripting", .ident),
    ("prefers-reduced-motion", .ident), ("prefers-reduced-transparency", .ident),
    ("prefers-contrast", .ident), ("forced-colors", .ident), ("prefers-color-scheme", .ident),
    ("prefers-reduced-data", .ident), ("device-width", .length), ("device-height", .length),
    ("device-aspect-ratio", .ratio), ("-webkit-device-pixel-ratio", .number),
    ("-moz-device-pixel-ratio", .number)]

/-- The features of a box. -/
def containerFeatures : List (String × FeatureKind) :=
  [("width", .length), ("height", .length), ("inline-size", .length), ("block-size", .length),
    ("aspect-ratio", .ratio), ("orientation", .ident)]

/-- The features of how a box has scrolled. -/
def scrollFeatures : List (String × FeatureKind) :=
  [("stuck", .ident), ("snapped", .ident), ("scrollable", .ident), ("scrolled", .ident)]

/-- The feature of a name, as it is written, with its kind and the comparison that the
name holds. -/
structure FeatureName where
  shown : Text
  kind : FeatureKind
  comparison : Option Text := none
  deriving DecidableEq, Repr

/-- The feature of a name. -/
def featureOf (table : List (String × FeatureKind)) (name : Text) : FeatureName :=
  let lower := Text.lowerAscii name
  if Text.startsWith name "--" then ⟨writeIdent name, .unknown, none⟩
  else
    let webkit : Text := "-webkit-"
    let (vendor, rest) :=
      match Text.stripStart? webkit lower with
      | some r => (webkit, r)
      | none => ([], lower)
    let (comparison, rest) : Option Text × Text :=
      match Text.stripStart? "min-" rest, Text.stripStart? "max-" rest with
      | some r, _ => (some ">=", r)
      | none, some r => (some "<=", r)
      | none, none => (none, rest)
    match table.find? fun x => x.1.toList == vendor ++ rest with
    | some (shown, kind) => ⟨shown.toList, kind, comparison⟩
    | none => ⟨writeIdent name, .unknown, none⟩

namespace Reading

/-- A comparison, or a colon if that is allowed; the colon is none. -/
def comparison (hasColon : Bool) : Reading (Option Text) := do
  let place ← here
  let c ← next
  match c.head with
  | .colon => if hasColon then return none else fail (.unexpected c.head) place
  | .delim '=' => return some ['=']
  | .delim '>' => return some (if (← attempt (delim '=')).isSome then ['>', '='] else ['>'])
  | .delim '<' => return some (if (← attempt (delim '=')).isSome then ['<', '='] else ['<'])
  | t => fail (.unexpected t) place

/-- A ratio that has a slash. -/
def slashedRatio : Reading Text := do
  let a ← number
  delim '/'
  return Value.writeRatio a (← number)

/-- A value of the kind that is expected. -/
def knownValue (kind : FeatureKind) : Reading Text :=
  match kind with
  | .boolean => do
    let n ← integer
    if n = 0 || n = 1 then return Text.ofInt n else failHere .invalidValue
  | .number => do return writeNumber (← number)
  | .integer => do return Text.ofInt (← integer)
  | .length => length
  | .resolution => resolution
  | .ratio => Value.ratio
  | .ident => do return writeIdent (← ident)
  | .unknown => failHere .invalidValue

/-- A value of any kind, with its kind; of a variable of the environment it is unknown. -/
def anyValue : Reading (Text × FeatureKind) := do
  match ← attempt slashedRatio with
  | some t => return (t, .ratio)
  | none =>
    match ← attempt number with
    | some x => return (writeNumber x, .number)
    | none =>
      match ← attempt length with
      | some t => return (t, .length)
      | none =>
        match ← attempt resolution with
        | some t => return (t, .resolution)
        | none =>
          match ← attempt environment with
          | some t => return (t, .unknown)
          | none => return (writeIdent (← ident), .ident)

/-- A value of a feature, with whether its kind is the right one. -/
def featureValue (kind : FeatureKind) : Reading (Text × Bool) := do
  match ← attempt (knownValue kind) with
  | some t => return (t, true)
  | none =>
    let (t, k) ← anyValue
    return (t, k = kind || kind = .unknown || k = .unknown)

/-- The comparison that holds just when a given one does not. -/
def converse? (op : Text) : Option Text :=
  match op with
  | ['<'] => some ['>', '=']
  | ['<', '='] => some ['>']
  | ['>'] => some ['<', '=']
  | ['>', '='] => some ['<']
  | _ => none

/-- A feature with one comparison. -/
def ranged (name op value : Text) : Feature :=
  let written (op : Text) : Text := '(' :: name ++ ' ' :: op ++ ' ' :: value ++ [')']
  { written := written op, opposite := (converse? op).map written }

/-- A feature whose name comes first. -/
def nameFirst (table : List (String × FeatureKind)) : Reading Feature := do
  let name := featureOf table (← ident)
  match ← attempt (comparison true) with
  | none => return { written := '(' :: name.shown ++ [')'] }
  | some op =>
    if op.isSome && name.comparison.isSome then failHere .invalidMediaQuery
    else
      let (v, fits) ← featureValue name.kind
      if !fits then failHere .invalidMediaQuery
      else
        match op.orElse fun _ => name.comparison with
        | none => return { written := '(' :: name.shown ++ ": ".toList ++ v ++ [')'] }
        | some op =>
          if !name.kind.isOrdered then failHere .invalidMediaQuery
          else return ranged name.shown op v

/-- The first name that stands somewhere in what is left. The first argument bounds the
search. -/
def findName (table : List (String × FeatureKind)) : Nat → Reading FeatureName
  | 0 => failHere .invalidMediaQuery
  | n + 1 => do
    match ← attempt ident with
    | some name =>
      let f := featureOf table name
      if f.comparison.isSome then failHere .invalidMediaQuery else return f
    | none =>
      if ← isDone then failHere .invalidMediaQuery
      else
        let _ ← next
        findName table n

/-- The comparison read from the other side. -/
def opposite (op : Text) : Text :=
  match op with
  | '<' :: r => '>' :: r
  | '>' :: r => '<' :: r
  | op => op

/-- A feature between or after values. -/
def valueFirst (table : List (String × FeatureKind)) : Reading Feature := fun s =>
  match findName table (s.rest.length + 1) s with
  | .error f => .error f
  | .ok (name, _) =>
    (do
      let (v, fits) ← featureValue name.kind
      let op ← comparison false
      let _ ← ident
      let op := op.getD ['=']
      if !name.kind.isOrdered || !fits then failHere .invalidMediaQuery
      else
        match ← attempt (comparison false) with
        | some last =>
          let last := last.getD ['=']
          if last.head? ≠ op.head? || op = ['='] then failHere .invalidMediaQuery
          else
            let (w, fits) ← featureValue name.kind
            if !fits then failHere .invalidMediaQuery
            else
              return { written := '(' :: v ++ ' ' :: op ++ ' ' :: name.shown ++ ' ' :: last ++
                ' ' :: w ++ [')'] }
        | none => return ranged name.shown (opposite op) v :
      Reading Feature) s

/-- **A feature**, inside its brackets. -/
def feature (table : List (String × FeatureKind)) : Reading Feature := fun s =>
  match nameFirst table s with
  | .ok x => .ok x
  | .error f => if f.mistake = .invalidMediaQuery then .error f else valueFirst table s

/-- **What conditions are made of**: features in brackets, and functions, each read by what
is inside its brackets. -/
structure Leaves where
  feature : Reading Feature
  /-- The reading of what is in the brackets of a function, by the name of the function; it
  gives what is written after the name, brackets and all. -/
  call : Text → Option (Reading Text) := fun _ => none

/-- The leaves that are features of a table. -/
def Leaves.ofTable (table : List (String × FeatureKind)) : Leaves :=
  { feature := Reading.feature table }

mutual

/-- A condition in brackets, or a function. The first argument bounds the depth. -/
def bracketed : Nat → Leaves → Reading Condition
  | 0, _ => failHere .tooDeep
  | n + 1, leaves => do
    let place ← here
    let c ← next
    match ← started n leaves c with
    | some k => return k
    | none => fail (.unexpected c.head) place

/-- The condition that a bracket or a function is. -/
def started : Nat → Leaves → Component → Reading (Option Condition)
  | 0, _, _ => failHere .tooDeep
  | n + 1, leaves, c => do
    match c.head with
    | .opening .round =>
      inside c do
        match ← attempt (condition n leaves true) with
        | some k => return some k
        | none => return some (.feature (← leaves.feature))
    | .function name =>
      match leaves.call (Text.lowerAscii name) with
      | some r =>
        return some (.feature { written := Text.lowerAscii name ++ (← inside c r) })
      | none => return none
    | _ => return none

/-- Further conditions with one word between them. -/
def conditions : Nat → Leaves → Text → Reading (List Condition)
  | 0, _, _ => failHere .tooDeep
  | n + 1, leaves, word => do
    match ← attempt (keyword word) with
    | none => return []
    | some _ =>
      let c ← bracketed n leaves
      return c :: (← conditions n leaves word)

/-- A condition; `or` may be forbidden. -/
def condition : Nat → Leaves → Bool → Reading Condition
  | 0, _, _ => failHere .tooDeep
  | n + 1, leaves, hasOr => do
    let place ← here
    let c ← next
    if (Stream.identOf? c).any (Text.eqIgnoringCase · "not") then
      return .not (← bracketed n leaves)
    else
      match ← started n leaves c with
      | none => fail (.unexpected c.head) place
      | some first =>
        match ← attempt (keywordOf (["and", "or"].map String.toList)) with
        | none => return first
        | some word =>
          if !hasOr && word = ("or" : Text) then fail (.unexpected (.ident "or")) place
          else
            let second ← bracketed n leaves
            return .joined word first (second :: (← conditions n leaves word))

end

/-- One media query. -/
def mediaQuery : Reading MediaQuery := do
  let front ← attempt do
    let qualifier ← attempt (keywordOf (["not", "only"].map String.toList))
    return (qualifier, ← ident)
  match front with
  | none =>
    let c ← bounded fun n => condition n (Leaves.ofTable mediaFeatures) true
    return { condition := some c }
  | some (qualifier, name) =>
    let lower := Text.lowerAscii name
    let device : Option Text :=
      if lower = ("all" : Text) then none
      else if lower = ("print" : Text) || lower = ("screen" : Text) then some lower
      else some name
    match ← attempt (keyword "and") with
    | some _ =>
      let c ← bounded fun n => condition n (Leaves.ofTable mediaFeatures) false
      return { qualifier, device, condition := some c }
    | none => return { qualifier, device }

/-- Media queries between commas; the place of a fault counts the blanks before a query.
A query that ends too early ends the list. The first argument bounds their number. -/
def mediaQueriesUpTo : Nat → Reading (List MediaQuery)
  | 0 => return []
  | n + 1 => fun s =>
    match (upTo Stream.isComma mediaQuery) s with
    | .error f =>
      if f.mistake = .endOfInput then skipTo Stream.isComma *> pure [] <| s else .error f
    | .ok (q, s) =>
      (do
        match ← attempt comma with
        | some _ => return q :: (← mediaQueriesUpTo n)
        | none => return [q] : Reading (List MediaQuery)) s

/-- **Media queries** between commas. -/
def mediaQueries : Reading (List MediaQuery) := do
  if ← isDone then return []
  else
    let s ← get
    mediaQueriesUpTo (s.rest.length + 1)

end Reading

end ModuleHooks.Css
