import ModuleHooks.Css.MediaQuery
import ModuleHooks.Css.Property
/-!
# Support of features

Conditions on what is supported: declarations and selectors, joined by `and`, `or` and
`not`. Declarations that differ by the mark of a vendor only are one declaration for
several vendors, and each of them is written once.
-/

namespace ModuleHooks.Css

open Property (Vendor)

/-- **A declaration whose support is asked for.** -/
structure SupportedDeclaration where
  name : Text
  /-- The vendors whose mark is in front of the name, in their order. -/
  vendors : List Vendor := []
  /-- Whether the name without a mark is meant, too. -/
  isPlain : Bool := true
  value : Text
  deriving DecidableEq, Repr

/-- **A condition on what is supported.** -/
inductive Support where
  | declaration (d : SupportedDeclaration)
  | selector (written : Text)
  /-- Something in brackets that is not understood. -/
  | unknown (written : Text)
  | not (s : Support)
  | joined (word : Text) (all : List Support)
  deriving Repr

namespace SupportedDeclaration

/-- Whether two declarations are the same for different vendors. -/
def isAkin (a b : SupportedDeclaration) : Bool := a.name = b.name && a.value = b.value

/-- One declaration for the vendors of both. -/
def merge (a b : SupportedDeclaration) : SupportedDeclaration :=
  { a with
    vendors := Vendor.all.filter fun v => a.vendors.contains v || b.vendors.contains v
    isPlain := a.isPlain || b.isPlain }

/-- **A declaration, written** for one vendor after the other. -/
def write (d : SupportedDeclaration) : Text :=
  let one (mark : Text) : Text := mark ++ d.name ++ ": ".toList ++ d.value
  let all := d.vendors.map (one ·.mark) ++ if d.isPlain then [one []] else []
  let inner := Text.join ") or (" all
  if d.vendors.isEmpty then '(' :: inner ++ [')'] else '(' :: '(' :: inner ++ [')', ')']

end SupportedDeclaration

namespace Support

/-- Whether a condition needs brackets under a word. -/
def needsBrackets (word : Option Text) : Support → Bool
  | .not _ => true
  | .joined w _ => word ≠ some w
  | _ => false

mutual

/-- A condition, written. -/
def write : Support → Text
  | .declaration d => d.write
  | .selector t => ("selector(" : Text) ++ t ++ [')']
  | .unknown t => t
  | .not s => ("not " : Text) ++ Condition.bracketIf (needsBrackets none s) (write s)
  | .joined word all => writeAll word all

/-- Conditions with the word that joins them. -/
def writeAll (word : Text) : List Support → Text
  | [] => []
  | [s] => Condition.bracketIf (needsBrackets (some word) s) (write s)
  | s :: r =>
    Condition.bracketIf (needsBrackets (some word) s) (write s) ++ ' ' :: word ++
      ' ' :: writeAll word r

end

/-- Conditions with a declaration among them: in the place of its kin, or at the end. -/
def insert (d : SupportedDeclaration) : List Support → List Support
  | [] => [.declaration d]
  | .declaration e :: r => if e.isAkin d then .declaration (e.merge d) :: r
    else .declaration e :: insert d r
  | s :: r => s :: insert d r

/-- Conditions, each declaration for all its vendors at once. -/
def merged (all : List Support) : List Support :=
  all.foldl (fun done s =>
    match s with
    | .declaration d => insert d done
    | s => done ++ [s]) []

end Support

namespace Component

mutual

/-- The first token in a component that can stand nowhere, and the place after it. -/
def mistake? : Component → Option Fault
  | .token p w t => if t.isMistake then some ⟨.unexpected t, Lexer.advance p w⟩ else none
  | .block _ _ _ _ inside _ _ => mistakeIn? inside

/-- The first token in components that can stand nowhere, and the place after it. -/
def mistakeIn? : List Component → Option Fault
  | [] => none
  | c :: r =>
    match mistake? c with
    | some f => some f
    | none => mistakeIn? r

end

end Component

namespace Reading

/-- All that is left as it is written; what can stand nowhere is a fault. -/
def sourceLeft : Reading Text := fun s =>
  match Component.mistakeIn? s.rest with
  | some f => .error f
  | none => .ok (Component.sources s.rest, ⟨[], s.finish⟩)

/-- The declaration of a condition, inside its brackets. -/
def supportDeclaration : Reading SupportedDeclaration := do
  let name ← ident
  let lower := Text.lowerAscii name
  colon
  skipBlanks
  let value ← sourceLeft
  if Property.isKnown lower then
    match Property.splitVendor lower with
    | (some v, rest) => return { name := rest, vendors := [v], isPlain := false, value }
    | (none, rest) => return { name := rest, value }
  else return { name := writeIdent name, value }

/-- Something in brackets that is not understood. -/
def supportUnknown (c : Component) : Reading Support := do
  let _ ← inside c sourceLeft
  return .unknown c.source

mutual

/-- A condition in brackets. The first argument bounds the depth. -/
def supportBracketed : Nat → Reading Support
  | 0 => failHere .tooDeep
  | n + 1 => do
    skipBlanks
    let place ← here
    let c ← next
    match c.head with
    | .function name =>
      if Text.eqIgnoringCase name "selector" then
        match ← attempt (inside c sourceLeft) with
        | some t => return .selector t
        | none => supportUnknown c
      else supportUnknown c
    | .opening .round =>
      match ← attempt (inside c do
          match ← attempt (support n) with
          | some s => return s
          | none => return .declaration (← supportDeclaration)) with
      | some s => return s
      | none => supportUnknown c
    | t => fail (.unexpected t) place

/-- Further conditions with one word between them. -/
def supportMore : Nat → Text → Reading (List Support)
  | 0, _ => failHere .tooDeep
  | n + 1, word => do
    match ← attempt (do
        keyword word
        supportBracketed n) with
    | none => return []
    | some s => return s :: (← supportMore n word)

/-- A condition. -/
def support : Nat → Reading Support
  | 0 => failHere .tooDeep
  | n + 1 => do
    match ← attempt (keyword "not") with
    | some _ => return .not (← supportBracketed n)
    | none =>
      let first ← supportBracketed n
      match ← supportMore n "and" with
      | [] =>
        match ← supportMore n "or" with
        | [] => return first
        | more => return .joined "or" (Support.merged (first :: more))
      | more => return .joined "and" (Support.merged (first :: more))

end

/-- **A condition on what is supported.** -/
def supportCondition : Reading Support := bounded support

end Reading

end ModuleHooks.Css
