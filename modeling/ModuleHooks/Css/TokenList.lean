import ModuleHooks.Css.Color
/-!
# Values that are not understood

A value whose grammar is not known, or that does not fit it, keeps its tokens as they
are written. Only what has one best form whatever it means is brought to it: colours
other than names, lengths and the like, strings, URLs and references to custom
properties. White space is dropped at both ends of the value, and of the arguments of
each function.
-/

namespace ModuleHooks.Css.TokenList

/-- How deep brackets may go. -/
def maxDepth : Nat := 500

/-- A list without leading blanks. -/
def skipBlanks (cs : List Component) : List Component := cs.dropWhile Component.isBlank

/-- The amount of a token with a known unit. -/
def amount? (n : Numeric) (unit : Text) : Option Amount :=
  let unit := Text.lowerAscii unit
  if List.elem unit lengthUnits || List.elem unit angleUnits || List.elem unit timeUnits ||
      List.elem unit resolutionUnits then some ⟨n.value, unit⟩
  else none

/-- An amount in a value that is not understood: a length keeps its unit. -/
def writeAmount (a : Amount) : Text :=
  if List.elem a.unit lengthUnits then writeDimension a.value a.unit else a.write false

/-- A token. -/
def writeToken (written : Text) : Token → Text
  | .ident t => writeIdent t
  | .atKeyword t => '@' :: writeIdent t
  | .hash t | .idHash t =>
    match Color.ofHex? t with
    | some k => k.write
    | none => '#' :: writeName t
  | .string t => writeString t
  | .url t => writeUrl t
  | .number n => writeNumber n.value
  | .percentage n =>
    writeNumericToken n.hasSign n.integer.isSome (mul n.value (num 100)) ++ ['%']
  | .dimension n unit =>
    match amount? n unit with
    | some a => writeAmount a
    | none => writeDimension n.value unit
  | .delim c => [c]
  | _ => written

/-- The names of the functions that make colours. -/
def colorFunctions : List Text :=
  List.map String.toList ["rgb", "rgba", "hsl", "hsla", "hwb", "lab", "lch", "oklab", "oklch",
    "color", "light-dark"]

/-- The colour that a function makes, if it makes one. -/
def color? (name : Text) (c : Component) : Option Color :=
  if List.elem (Text.lowerAscii name) colorFunctions then
    match Reading.color ⟨[c], c.place⟩ with
    | .ok (k, _) => some k
    | .error _ => none
  else none

/-- The names of the variables of the environment that are known to all pages. -/
def environmentNames : List Text :=
  List.map String.toList ["safe-area-inset-top", "safe-area-inset-right",
    "safe-area-inset-bottom", "safe-area-inset-left", "viewport-segment-width",
    "viewport-segment-height", "viewport-segment-top", "viewport-segment-left",
    "viewport-segment-bottom", "viewport-segment-right"]

/-- The front of a reference to a custom property: its name. -/
def propertyFront : Reading Text := do return writeIdent (← Reading.dashedIdent)

/-- The front of a variable of the environment: its name, and the numbers that say which
of several is meant. -/
def environmentFront : Reading Text := do
  let name ← Reading.orTry (Reading.keywordOf environmentNames)
    (Reading.orTry propertyFront do return writeIdent (← Reading.authorIdent))
  let places ← Reading.repeated Reading.integer
  return name ++ (places.map fun i => ' ' :: Text.ofInt i).flatten

/-- The front of a reference, and what stands after a comma for the case that there is no
such thing. -/
def reference (front : Reading Text) : Reading (Text × Option (List Component)) := do
  let name ← front
  let place ← Reading.here
  match ← Reading.attempt Reading.next with
  | none => return (name, none)
  | some c =>
    if c.head == .comma then return (name, some (← get).rest)
    else Reading.fail (.unexpected c.head) place

/-- The front that a reference by a function has. -/
def frontOf? (name : Text) : Option (Reading Text) :=
  if name = ("var" : Text) then some propertyFront
  else if name = ("env" : Text) then some environmentFront
  else none

/-- **A colour that has references in it**: the text of its front, and the two parts by
tokens with the text between them. -/
structure OpenColor where
  front : Text
  /-- The part before the text between the two, if it has any. -/
  first : Option (List Component)
  between : Text
  second : List Component

/-- The colour with references that a function may make. -/
def openColor? (name : Text) (inside : List Component) (finish : Place) : Option OpenColor :=
  let name := Text.lowerAscii name
  if name = ("light-dark" : Text) then
    match inside.dropWhile (·.head != .comma) with
    | [] => none
    | _ :: dark =>
      some ⟨"light-dark(", some (inside.takeWhile (·.head != .comma)), ", ", dark⟩
  else
    match Reading.openColor name ⟨inside, finish⟩ with
    | .ok (front, s) => some ⟨front, none, " / ", s.rest⟩
    | .error _ => none

mutual

/-- One component. The first argument bounds the depth. -/
def writeOne : Nat → Component → Except Fault Text
  | _, .token p w t => if t.isMistake then .error ⟨.unexpected t, p⟩ else .ok (writeToken w t)
  | 0, .block p _ _ _ _ _ _ => .error ⟨.tooDeep, p⟩
  | n + 1, .block p w t inner inside finish closer =>
    match t with
    | .function name =>
      match color? name (.block p w t inner inside finish closer) with
      | some k => .ok k.write
      | none =>
        match writeOpenColor n (openColor? name inside finish) with
        | some t => .ok t
        | none => writeCall n name inside finish
    | t =>
      match writeAll n inside with
      | .error f => .error f
      | .ok u =>
        match t with
        | .opening .square => .ok ('[' :: u ++ [']'])
        | .opening .curly => .ok ('\x7b' :: u ++ ['\x7d'])
        | _ => .ok ('(' :: u ++ [')'])

/-- A colour with references in it, if all its tokens can stand there. -/
def writeOpenColor : Nat → Option OpenColor → Option Text
  | _, none => none
  | n, some k =>
    match (k.first.map (writeTrimmed n)).getD (.ok []), writeTrimmed n k.second with
    | .ok a, .ok b => some (k.front ++ a ++ k.between ++ b ++ [')'])
    | _, _ => none

/-- A function that makes no colour. -/
def writeCall : Nat → Text → List Component → Place → Except Fault Text
  | n, name, inside, finish =>
    if name = ("url" : Text) then
      match (do let u ← Reading.string; Reading.finished; return u : Reading Text)
          ⟨inside, finish⟩ with
      | .ok (u, _) => .ok (writeUrl u)
      | .error f => .error f
    else
      match frontOf? name with
      | some front =>
        match reference front ⟨inside, finish⟩ with
        | .error f => .error f
        | .ok ((front, none), _) => .ok (name ++ '(' :: front ++ [')'])
        | .ok ((front, some fallback), _) =>
          match writeTrimmed n fallback with
          | .error f => .error f
          | .ok t => .ok (name ++ '(' :: front ++ ", ".toList ++ t ++ [')'])
      | none =>
        match writeTrimmed n inside with
        | .error f => .error f
        | .ok t => .ok (writeIdent name ++ '(' :: t ++ [')'])

/-- Components one after the other. -/
def writeAll : Nat → List Component → Except Fault Text
  | _, [] => .ok []
  | n, c :: r =>
    match writeOne n c with
    | .error f => .error f
    | .ok t =>
      match writeAll n r with
      | .error f => .error f
      | .ok u => .ok (t ++ u)

/-- Components without the white space at their ends, unless there is nothing else. -/
def writeTrimmed : Nat → List Component → Except Fault Text
  | _, [] => .ok []
  | n, c :: r => if c.isSpace then writeEnd n r else writeEnd n (c :: r)

/-- Components without the white space at their end. -/
def writeEnd : Nat → List Component → Except Fault Text
  | _, [] => .ok []
  | n, c :: r =>
    if c.isSpace && r.isEmpty then .ok []
    else
      match writeOne n c with
      | .error f => .error f
      | .ok t =>
        match writeEnd n r with
        | .error f => .error f
        | .ok u => .ok (t ++ u)

end

/-! ## Tokens as they are -/

/-- A character of a URL without quotes. -/
def writeUrlChar (c : Char) : Text :=
  if c.toNat ≤ 32 || c.toNat = 127 then hexEscape c
  else if List.elem c ['(', ')', '"', '\'', '\\'] then ['\\', c]
  else [c]

/-- A token that nothing is understood of. -/
def writeRawToken (written : Text) : Token → Text
  | .ident t => writeIdent t
  | .atKeyword t => '@' :: writeIdent t
  | .hash t => '#' :: writeName t
  | .idHash t => '#' :: writeIdent t
  | .string t => writeString t
  | .url t => ("url(" : Text) ++ t.flatMap writeUrlChar ++ [')']
  | .number n => writeNumericToken n.hasSign n.integer.isSome n.value
  | .percentage n =>
    writeNumericToken n.hasSign n.integer.isSome (mul n.value (num 100)) ++ ['%']
  | .dimension n unit =>
    writeNumericToken n.hasSign n.integer.isSome n.value ++ writeUnit unit
  | .function name => writeIdent name ++ ['(']
  | .delim c => [c]
  | _ => written

mutual

/-- One component that nothing is understood of. -/
def writeRawOne : Component → Except Fault Text
  | .token p w t => if t.isMistake then .error ⟨.unexpected t, p⟩ else .ok (writeRawToken w t)
  | .block _ w t _ inside _ _ =>
    match writeRaw inside with
    | .error f => .error f
    | .ok u =>
      let closer :=
        match t with
        | .opening .square => ']'
        | .opening .curly => '\x7d'
        | _ => ')'
      .ok (writeRawToken w t ++ u ++ [closer])

/-- **Components that nothing is understood of.** -/
def writeRaw : List Component → Except Fault Text
  | [] => .ok []
  | c :: r =>
    match writeRawOne c with
    | .error f => .error f
    | .ok t =>
      match writeRaw r with
      | .error f => .error f
      | .ok u => .ok (t ++ u)

end

end TokenList

namespace Reading

/-- **A value by its tokens**: all that is left. -/
def tokenList : Reading Text := fun s =>
  match TokenList.writeTrimmed TokenList.maxDepth s.rest with
  | .ok t => .ok (t, ⟨[], s.finish⟩)
  | .error f => .error f

/-- What a variable of the environment is written as, by the function that names it. -/
def environmentOf (c : Component) : Reading Text := fun s =>
  let inner := Stream.inside c
  match TokenList.writeCall TokenList.maxDepth "env" inner.rest inner.finish with
  | .ok t => .ok (t, s)
  | .error f => .error f

/-- A variable of the environment. -/
def environment : Reading Text := do environmentOf (← functionOf "env")

end Reading

end ModuleHooks.Css
