import ModuleHooks.Sass.Extension
import ModuleHooks.Sass.Function.Basic
import ModuleHooks.Sass.Selector.Reading
/-!
# Functions of selectors

A selector is a value as a list of lists of words. A text is a selector as well.
-/

namespace ModuleHooks.Sass

/-- **A selector as a value.** -/
def Selector.value (s : Selector) : Value :=
  .list (s.map fun c => .list (c.limbs.map fun l => .word (l.write true)) .space false) .comma false

/-- The text of a selector that a value is, if it is one. -/
def Value.selectorText? : Value → Option Text
  | .text t _ => some t
  | .list items s _ =>
    if items.isEmpty || s = .slash then none
    else
      let word (w : Value) : Option Text :=
        match w with
        | .text t _ => some t
        | _ => none
      let inner (v : Value) : Option Text :=
        match v with
        | .text t _ => some t
        | .list words .space _ => (words.mapM word).map (Text.join [' '])
        | _ => none
      (items.mapM inner).map (Text.join (if s = .comma then [',', ' '] else [' ']))
  | _ => none

namespace Function

open Sass.Builtin

/-- A value as a selector. -/
def asSelector (name : Text) (allowsParent : Bool) (v : Value) : Builtin Selector := do
  match v.selectorText? with
  | none =>
    failArg name (v.inspect
      ++ " is not a valid selector: it must be a string, a list of strings, or a list of lists of strings.".toList)
  | some t => atCall fun span => Selector.read t span allowsParent true

/-- A selector argument. -/
def selector (i : Nat) (name : Text) (allowsParent : Bool := false) : Builtin Selector := do
  asSelector name allowsParent (← arg i name)

/-- Selectors, each inside of the one before; nothing is around the first one. -/
def nest : Builtin Value := do
  match ← all with
  | [] => fail "$selectors: At least one selector must be passed."
  | list =>
    let selectors ← list.mapM (asSelector "selectors" true)
    let result ← selectors.foldlM
      (fun (parent : Option Selector) s => return some (← atCall fun span => s.below span parent true))
      none
    return (result.getD []).value

/-- A selector argument, in which no selector around may be meant. -/
def topSelector (i : Nat) (name : Text) : Builtin Selector := do
  let s ← selector i name true
  if s.hasParent then failArg name "Parent selectors aren't allowed here." else return s

/-- The selector that a value is, where nothing is said about what is wrong with it. -/
def parsed : Builtin Value := do
  atMost 1
  let v ← arg 0 "selector"
  try return (← asSelector "selector" false v).value
  catch _ => failArg "selector" "expected selector."

/-- A complex selector with the sign of the selector around at its front. -/
def withSign? (c : Complex) : Option Complex :=
  match c.limbs with
  | .compound (s :: ss) :: rest =>
    let front : Option (List Simple) :=
      match s with
      | .universal _ => none
      | .element .default n => some (.parent n :: ss)
      | .element _ _ => none
      | s => some (.parent [] :: s :: ss)
    front.map fun f => .of (.compound f :: rest) c.onNewLine
  | _ => none

/-- Selectors, each put right after the one before. -/
def appendSelectors : Builtin Value := do
  match ← all with
  | [] => fail "$selectors: At least one selector must be passed."
  | first :: rest =>
    let start ← asSelector "selectors" false first
    let result ← rest.foldlM
      (fun parent v => do
        let s ← asSelector "selectors" false v
        let signed ← s.mapM fun c =>
          match withSign? c with
          | some c => (pure c : Builtin Complex)
          | none =>
            fail ("Can't append ".toList ++ c.key ++ " to ".toList ++ parent.write ++ ['.'])
        atCall fun span => Selector.below signed span (some parent) true)
      start
    return result.value

/-- A selector where another one is extended or replaced. -/
def extendWith (mode : ExtendMode) (target source : Text) (allowsParent : Bool) : Builtin Value := do
  atMost 3
  let s ← selector 0 "selector" allowsParent
  let extendee ← selector 1 target allowsParent
  let extender ← selector 2 source allowsParent
  let isCompound (c : Complex) : Bool :=
    match c.limbs with
    | [.compound _] => true
    | _ => false
  match extendee.find? fun c => !isCompound c with
  | some c => fail ("Can't extend complex selector ".toList ++ c.key ++ ['.'])
  | none => return (s.extendAll extendee extender mode).value

/-- **The functions of selectors**, by their names in their module. -/
def selectors : Functions :=
  [("nest", nest), ("append", appendSelectors), ("extend", extendWith .all "extendee" "extender" false),
    ("replace", extendWith .replace "original" "replacement" true),
    ("unify", do
      atMost 2
      let s ← topSelector 0 "selector1"
      let t ← topSelector 1 "selector2"
      return ((s.unify t).map Selector.value).getD .null),
    ("is-superselector", do
      atMost 2
      let s ← selector 0 "super"
      let t ← selector 1 "sub"
      return .truth (s.isAbove t)),
    ("simple-selectors", do
      atMost 1
      match ← selector 0 "selector" with
      | [.of (.compound ss :: _) _] => return .list (ss.map fun s => .word s.key) .comma false
      | _ => failArg "selector" "expected selector."),
    ("parse", parsed)]

end Function

end ModuleHooks.Sass
