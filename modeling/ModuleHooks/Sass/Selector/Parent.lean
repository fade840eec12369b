import ModuleHooks.Sass.Selector.Basic
/-!
# Selectors inside of others

A selector inside of a style rule means something below the selector of the rule, unless
it says with a sign where the selector of the rule shall stand.
-/

namespace ModuleHooks.Sass

mutual

/-- Whether a simple selector names the selector around. -/
def Simple.namesParent : Simple → Bool
  | .parent _ => true
  | .pseudo _ _ _ _ (some inner) => anyNamesParent inner
  | _ => false

/-- Whether one of some simple selectors names the selector around. -/
def simplesNameParent : List Simple → Bool
  | [] => false
  | s :: r => s.namesParent || simplesNameParent r

/-- Whether one of some pieces names the selector around. -/
def limbsNameParent : List Limb → Bool
  | [] => false
  | .compound ss :: r => simplesNameParent ss || limbsNameParent r
  | .combinator _ :: r => limbsNameParent r

/-- Whether one of some complex selectors names the selector around. -/
def anyNamesParent : List Complex → Bool
  | [] => false
  | .of ls _ :: r => limbsNameParent ls || anyNamesParent r

end

/-- **Whether a selector names the selector around it.** -/
def Selector.hasParent (s : Selector) : Bool := anyNamesParent s

/-- A simple selector with something at the end of its name. -/
def Simple.withSuffix? (suffix : Text) : Simple → Option Simple
  | .element s n => some (.element s (n ++ suffix))
  | .id n => some (.id (n ++ suffix))
  | .className n => some (.className (n ++ suffix))
  | .placeholder n => some (.placeholder (n ++ suffix))
  | .pseudo n c o none none => some (.pseudo (n ++ suffix) c o none none)
  | _ => none

/-- The first items of all lists, then the second ones, and so on. The first argument
bounds the lengths. -/
def interleave {α : Type} : Nat → List (List α) → List α
  | 0, _ => []
  | n + 1, lists => lists.filterMap List.head? ++ interleave n (lists.map List.tail)

/-- The choices of one item of each list, where the last list changes last. -/
def pathsThrough {α : Type} (choices : List (List α)) : List (List α) :=
  choices.foldl (fun paths choice => choice.flatMap fun x => paths.map (· ++ [x])) [[]]

/-- The compound selector at the end of a complex one takes the place of the sign. -/
def joinParent (span : Span) (suffix : Text) (rest : List Simple) (c : Complex) :
    Except Fault Complex :=
  match c.limbs.getLast? with
  | some (.compound ss) => do
    let ss ←
      if suffix = [] then pure ss
      else
        match ss.getLast? with
        | none => pure ss
        | some last =>
          match last.withSuffix? suffix with
          | some s => pure (ss.dropLast ++ [s])
          | none =>
            throw (.misplaced ("Invalid parent selector \"".toList ++ last.key ++ ['"']) span)
    return .of (c.limbs.dropLast ++ [.compound (ss ++ rest)]) c.onNewLine
  | _ =>
    throw (.misplaced ("Parent \"".toList ++ c.key
      ++ "\" is incompatible with this selector.".toList) span)

/-- A compound selector below a selector, if it names it, by the way that selectors
inside of it are brought below it. -/
def resolveCompound (span : Span) (inner : Selector → Except Fault Selector)
    (parent : Selector) (ss : List Simple) : Except Fault (Option (List Complex)) := do
  let hasInner := ss.any fun s => s.inner?.any anyNamesParent
  let startsWithSign :=
    match ss.head? with
    | some (.parent _) => true
    | _ => false
  if !hasInner && !startsWithSign then return none
  let resolved : List Simple ← ss.mapM fun s => do
    match s.inner? with
    | some list => if anyNamesParent list then return s.withInner (← inner list) else return s
    | none => return s
  match resolved with
  | .parent suffix :: rest =>
    if ss.length == 1 && suffix.isEmpty then return some parent
    else return some (← parent.mapM (joinParent span suffix rest))
  | _ => return some [.of [.compound resolved] false]

/-- **A complex selector below a selector.** -/
def resolveComplex (span : Span) (inner : Selector → Except Fault Selector)
    (parent : Selector) (isImplicit : Bool) (c : Complex) : Except Fault (List Complex) := do
  if !limbsNameParent c.limbs then
    if isImplicit then
      return parent.map fun p => .of (p.limbs ++ c.limbs) (c.onNewLine || p.onNewLine)
    else return [c]
  else
    c.limbs.foldlM
      (fun acc limb => do
        let plain := acc.map fun x => Complex.of (x.limbs ++ [limb]) x.onNewLine
        match limb with
        | .combinator _ => return plain
        | .compound ss =>
          match ← resolveCompound span inner parent ss with
          | none => return plain
          | some options =>
            return acc.flatMap fun x => options.map fun o =>
              Complex.of (x.limbs ++ o.limbs) (x.onNewLine || o.onNewLine))
      [Complex.of [] false]

/-- How many selectors may be inside of each other. -/
def nestingLimit : Nat := 64

/-- A selector below another one, up to some depth. -/
def resolveWithin (span : Span) : Nat → Option Selector → Bool → Selector → Except Fault Selector
  | 0, _, _, s => return s
  | _ + 1, none, _, s =>
    if anyNamesParent s then
      throw (.misplaced "Top-level selectors may not contain the parent selector \"&\"." span)
    else return s
  | n + 1, some parent, isImplicit, s => do
    let lists ← s.mapM (resolveComplex span (resolveWithin span n (some parent) false) parent isImplicit)
    return interleave ((lists.map List.length).foldl max 0) lists

/-- **A selector below the selector around it.** -/
def Selector.below (s : Selector) (span : Span) (parent : Option Selector) (isImplicit : Bool) :
    Except Fault Selector :=
  resolveWithin span nestingLimit parent isImplicit s

end ModuleHooks.Sass
