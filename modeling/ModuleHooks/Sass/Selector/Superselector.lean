import ModuleHooks.Sass.Selector.Parent
/-!
# Selectors that match more

One selector is above another one when it matches whatever the other one matches. The
test looks at the form only, so it may miss some; what it finds is right.
-/

namespace ModuleHooks.Sass

/-- A test of rows of pieces. -/
abbrev RowTest := List Limb → List Limb → Bool

/-- Whether one of the first rows is above each of the second ones. -/
def listAbove (rows : RowTest) (s t : Selector) : Bool :=
  t.all fun c => s.any fun d => rows d.limbs c.limbs

/-- The pseudo-classes that match what their selectors match. -/
def transparentClasses : List Text :=
  List.map String.toList ["is", "matches", "where", "any", "nth-child", "nth-last-child"]

/-- Whether a simple selector is above a compound one. -/
def simpleAbove (s : Simple) (ss : List Simple) : Bool :=
  ss.any fun t =>
    s == t ||
      match t.inner? with
      | some list =>
        List.elem t.pseudoName transparentClasses && list.all fun c =>
          match c.limbs with
          | [.compound inner] => inner.any (s == ·)
          | _ => false
      | none => false

/-- The selectors inside of the simple selectors of a name. -/
def innersOf (name : Text) (isClass : Bool) (ss : List Simple) : List Selector :=
  ss.filterMap fun s =>
    match s with
    | .pseudo n c _ _ (some inner) => if n == name && c == isClass then some inner else none
    | _ => none

/-- Whether a simple selector is of an element. -/
def Simple.isElement : Simple → Bool
  | .element .. => true
  | _ => false

/-- Whether a simple selector is an id. -/
def Simple.isId : Simple → Bool
  | .id _ => true
  | _ => false

/-- Whether a pseudo-class with a selector inside is above a compound selector with what
stands before it. -/
def pseudoAbove (rows : RowTest) (pseudo : Simple) (name : Text) (argument : Option Text)
    (inner : Selector) (ss : List Simple) (before : List Limb) : Bool :=
  let kind := unvendored name
  let sameName := innersOf name true ss
  if List.elem kind (List.map String.toList ["is", "matches", "any", "where"]) then
    sameName.any (listAbove rows inner)
      || inner.any fun c => rows c.limbs (before ++ [.compound ss])
  else if List.elem kind (List.map String.toList ["has", "host", "host-context"]) then
    sameName.any (listAbove rows inner)
  else if kind = ("slotted" : Text) then (innersOf name false ss).any (listAbove rows inner)
  else if kind = ("not" : Text) then
    inner.all fun c => ss.any fun t =>
      let last := ((c.limbs.getLast?).map Limb.simples).getD []
      if t.isElement then last.any fun s => s.isElement && !(s == t)
      else if t.isId then last.any fun s => s.isId && !(s == t)
      else
        match t with
        | .pseudo n _ _ _ (some list) => n == name && listAbove rows list [c]
        | _ => false
  else if kind = ("current" : Text) then sameName.any fun list => Selector.key inner == Selector.key list
  else if kind = ("nth-child" : Text) || kind = ("nth-last-child" : Text) then
    ss.any fun t =>
      match t with
      | .pseudo n _ _ a (some list) => n == name && a == argument && listAbove rows inner list
      | _ => false
  else simpleAbove pseudo ss

/-- **Whether a compound selector is above another one** with what stands before it. -/
def compoundAbove (rows : RowTest) (ss ts : List Simple) (before : List Limb) : Bool :=
  (ss.all fun s =>
    match s with
    | .pseudo name _ _ argument (some inner) => pseudoAbove rows s name argument inner ts before
    | s => simpleAbove s ts)
    && ts.all fun t => !(t.isPseudoElement && t.inner?.isNone) || simpleAbove t ss

/-- The first `k` from some number on such that a compound selector is above the piece
before it. -/
def findBelow (rows : RowTest) (ss : List Simple) (row : List Limb) : Nat → Nat → Option Nat
  | 0, _ => none
  | n + 1, k =>
    if k ≥ row.length then none
    else
      match row[k - 1]? with
      | some (.compound ts) =>
        if compoundAbove rows ss ts ((row.take (k - 1)).drop 1) then some k
        else findBelow rows ss row n (k + 1)
      | _ => findBelow rows ss row n (k + 1)

/-- Whether a row is above another one, by the test for rows inside of their pieces. The
first number bounds the length. -/
def rowsAlong (rows : RowTest) : Nat → RowTest
  | 0, _, _ => false
  | n + 1, row₁, row₂ =>
    match row₁, row₂ with
    | .compound ss :: rest, .compound _ :: _ =>
      if row₁.length > row₂.length then false
      else
        match rest with
        | [] => compoundAbove rows ss (((row₂.getLast?).map Limb.simples).getD []) row₂.dropLast
        | next :: after =>
          match findBelow rows ss row₂ row₂.length 1 with
          | none => false
          | some k =>
            match next, row₂.drop k with
            | .combinator c, .combinator d :: rest₂ =>
              let fits := if c = .following then d != .child else c == d
              if !fits || (row₁.length == 3 && row₂.length > 3) then false
              else rowsAlong rows n after rest₂
            | .combinator _, _ => false
            | .compound _, .combinator d :: rest₂ =>
              if d != .child then false else rowsAlong rows n rest rest₂
            | .compound _, rest₂ => rowsAlong rows n rest rest₂
    | _, _ => false

/-- Whether a row is above another one, up to some depth. -/
def rowAboveWithin : Nat → RowTest
  | 0, _, _ => false
  | n + 1, row₁, row₂ =>
    let endsWell (row : List Limb) : Bool := (row.getLast?).any Limb.isCompound
    endsWell row₁ && endsWell row₂ && rowsAlong (rowAboveWithin n) (row₁.length + 1) row₁ row₂

/-- **Whether a row is above another one.** -/
def rowAbove : RowTest := rowAboveWithin nestingLimit

/-- Whether a row is above another one when both stand before the same thing. -/
def rowAboveBefore (row₁ row₂ : List Limb) : Bool :=
  let isFree (row : List Limb) : Bool := (row.head?).any Limb.isCompound
  let base : Limb := .compound [.placeholder "<temp>"]
  isFree row₁ && isFree row₂ && row₁.length ≤ row₂.length && rowAbove (row₁ ++ [base]) (row₂ ++ [base])

/-- Whether a complex selector is above another one. -/
def Complex.isAbove (c d : Complex) : Bool := rowAbove c.limbs d.limbs

/-- Whether a selector is above another one. -/
def Selector.isAbove (s t : Selector) : Bool := listAbove rowAbove s t

end ModuleHooks.Sass
