import ModuleHooks.Css.Piece
/-!
# Selectors

A selector is a chain of compounds with combinators between them; a compound is a list
of simple selectors. Classes and identifiers are local to a scoped stylesheet, except
inside `:global(…)`.
-/

namespace ModuleHooks.Css

/-- **How two compounds of a chain are related.** -/
inductive Combinator where
  | descendant
  | child
  | nextSibling
  | laterSibling
  deriving DecidableEq, Repr

/-- The namespace of a name. -/
inductive Namespace where
  /-- None is written. -/
  | implicit
  /-- Nothing before the bar. -/
  | absent
  /-- Any namespace. -/
  | any
  | named (name : Text)
  deriving DecidableEq, Repr

/-- Which children of a parent are counted. -/
inductive Counting where
  | child
  | lastChild
  | ofType
  | lastOfType
  | column
  | lastColumn
  deriving DecidableEq, Repr

/-- **A simple selector.** -/
inductive Simple where
  | universal (ns : Namespace)
  | element (ns : Namespace) (name : Text)
  | id (name : Text)
  | class (name : Text)
  /-- An attribute, with an operator, a value and a flag if there are. -/
  | attribute (ns : Namespace) (name : Text) (test : Option (Text × Text)) (flag : Text)
  /-- The parent of a nested rule. -/
  | nesting
  /-- The root of what is selected from. -/
  | scope
  /-- A pseudo class or element without selectors in it, as it is written. -/
  | pseudo (written : Written)
  /-- A pseudo element that ends what selects elements. -/
  | pseudoElement (written : Written)
  | nth (kind : Counting) (a b : Int)
  | nthOf (kind : Counting) (a b : Int) (among : List (List (Option Combinator × List Simple)))
  /-- One of some selectors; it can be left away around a single compound. -/
  | is (any : List (List (Option Combinator × List Simple)))
  /-- An element with one of some selectors around it; they begin at the element. -/
  | has (any : List (List (Option Combinator × List Simple)))
  /-- A function of selectors. -/
  | matching (name : Text) (args : List (List (Option Combinator × List Simple)))
  /-- The names of its argument are global. -/
  | global (of : List (Option Combinator × List Simple))
  /-- The names of its argument are local. -/
  | local (of : List (Option Combinator × List Simple))
  deriving Repr

/-- A chain: each compound with the combinator in front of it. Only the first one can do
without. -/
abbrev Selector := List (Option Combinator × List Simple)

namespace Selector

/-- A combinator, written. -/
def writeCombinator : Combinator → Text
  | .descendant => " "
  | .child => " > "
  | .nextSibling => " + "
  | .laterSibling => " ~ "

/-- A namespace, written. -/
def writeNamespace : Namespace → Text
  | .implicit => []
  | .absent => ['|']
  | .any => ['*', '|']
  | .named name => writeIdent name ++ ['|']

/-- The formula `an + b`. -/
def writeFormula (a b : Int) : Text :=
  let signed (n : Int) : Text := if n < 0 then Text.ofInt n else '+' :: Text.ofInt n
  if a = 0 && b = 0 then ['0']
  else if b = 0 then
    if a = 1 then ['n'] else if a = -1 then ['-', 'n'] else Text.ofInt a ++ ['n']
  else if a = 2 && b = 1 then "odd"
  else if a = 0 then Text.ofInt b
  else if a = 1 then 'n' :: signed b
  else if a = -1 then '-' :: 'n' :: signed b
  else Text.ofInt a ++ 'n' :: signed b

/-- The name of a counting function. -/
def countingName : Counting → Text
  | .child => ":nth-child("
  | .lastChild => ":nth-last-child("
  | .ofType => ":nth-of-type("
  | .lastOfType => ":nth-last-of-type("
  | .column => ":nth-col("
  | .lastColumn => ":nth-last-col("

/-- The name of the first one of a counting, if it has one. -/
def firstName? : Counting → Option Text
  | .child => some ":first-child"
  | .lastChild => some ":last-child"
  | .ofType => some ":first-of-type"
  | .lastOfType => some ":last-of-type"
  | _ => none

/-- A counting without selectors. -/
def writeNth (kind : Counting) (a b : Int) : Text :=
  match firstName? kind with
  | some name =>
    if a = 0 && b = 1 then name else countingName kind ++ writeFormula a b ++ [')']
  | none => countingName kind ++ writeFormula a b ++ [')']

/-- Whether a simple selector selects elements by their name. -/
def isElement : Simple → Bool
  | .universal _ => true
  | .element _ _ => true
  | _ => false

/-- Whether a universal selector says nothing beside others. -/
def isIdle : Simple → Bool
  | .universal .implicit => true
  | _ => false

/-- Whether a simple selector ends what selects elements. -/
def isPseudoElement : Simple → Bool
  | .pseudoElement _ => true
  | _ => false

mutual

/-- A simple selector; the names in it are local where `isLocal` says so. -/
def writeSimple (isLocal : Bool) : Simple → Written
  | .universal ns => Written.text (writeNamespace ns ++ ['*'])
  | .element ns name => Written.text (writeNamespace ns ++ writeIdent name)
  | .id name =>
    if isLocal then [.text ['#'], .local name] else Written.text ('#' :: writeIdent name)
  | .class name =>
    if isLocal then [.text ['.'], .local name] else Written.text ('.' :: writeIdent name)
  | .attribute ns name test flag =>
    Written.text <| '[' :: writeNamespace ns ++ writeIdent name ++
      (match test with
        | some (op, value) => op ++ writeString value
        | none => []) ++ flag ++ [']']
  | .nesting => Written.text ['&']
  | .scope => Written.text ":scope"
  | .pseudo w => if isLocal then w else w.unscoped
  | .pseudoElement w => if isLocal then w else w.unscoped
  | .nth kind a b => Written.text (writeNth kind a b)
  | .nthOf kind a b among =>
    .text (countingName kind ++ writeFormula a b ++ " of ".toList) ::
      writeSelectors isLocal among ++ [.text [')']]
  | .is [[(none, s :: r)]] =>
    if isElement s || r.any isPseudoElement || isPseudoElement s then
      .text ":is(" :: writeSelectors isLocal [[(none, s :: r)]] ++ [.text [')']]
    else writeSimples isLocal (s :: r)
  | .is any => .text ":is(" :: writeSelectors isLocal any ++ [.text [')']]
  | .has any => .text ":has(" :: writeRelatives isLocal any ++ [.text [')']]
  | .matching name args => .text (name ++ ['(']) :: writeSelectors isLocal args ++ [.text [')']]
  | .global of => writeChain false of
  | .local of => writeChain isLocal of

/-- Simple selectors one after the other. -/
def writeSimples (isLocal : Bool) : List Simple → Written
  | [] => []
  | s :: r => writeSimple isLocal s ++ writeSimples isLocal r

/-- A compound. A universal selector is left away where something else is said. -/
def writeCompound (isLocal : Bool) : List Simple → Written
  | [] => []
  | [s] => writeSimple isLocal s
  | s :: r =>
    if isIdle s then writeSimples isLocal r
    else writeSimple isLocal s ++ writeSimples isLocal r

/-- A chain. -/
def writeChain (isLocal : Bool) : List (Option Combinator × List Simple) → Written
  | [] => []
  | (c, compound) :: r =>
    let before : Written :=
      match c with
      | some c => [.text (writeCombinator c)]
      | none => []
    before ++ writeCompound isLocal compound ++ writeChain isLocal r

/-- Selectors with commas between them. -/
def writeSelectors (isLocal : Bool) :
    List (List (Option Combinator × List Simple)) → Written
  | [] => []
  | [s] => writeChain isLocal s
  | s :: r => writeChain isLocal s ++ .text ", " :: writeSelectors isLocal r

/-- A chain that begins at an element, which need not be said. -/
def writeRelative (isLocal : Bool) : List (Option Combinator × List Simple) → Written
  | (_, [.scope]) :: r => writeChain isLocal r
  | s => writeChain isLocal s

/-- Such chains with commas between them. -/
def writeRelatives (isLocal : Bool) :
    List (List (Option Combinator × List Simple)) → Written
  | [] => []
  | [s] => writeRelative isLocal s
  | s :: r => writeRelative isLocal s ++ .text ", " :: writeRelatives isLocal r

end

mutual

/-- A simple selector with the parent of nested rules put in its place. -/
def underSimple (parent : List (List (Option Combinator × List Simple))) : Simple → Simple
  | .nesting => .is parent
  | .nthOf kind a b among => .nthOf kind a b (underSelectors parent among)
  | .is any => .is (underSelectors parent any)
  | .has any => .has (underSelectors parent any)
  | .matching name args => .matching name (underSelectors parent args)
  | .global of => .global (underChain parent of)
  | .local of => .local (underChain parent of)
  | s => s

/-- Simple selectors with the parent in its place. -/
def underSimples (parent : List (List (Option Combinator × List Simple))) :
    List Simple → List Simple
  | [] => []
  | s :: r => underSimple parent s :: underSimples parent r

/-- A chain with the parent in its place. -/
def underChain (parent : List (List (Option Combinator × List Simple))) :
    List (Option Combinator × List Simple) → List (Option Combinator × List Simple)
  | [] => []
  | (c, compound) :: r => (c, underSimples parent compound) :: underChain parent r

/-- **Selectors with the parent of nested rules put in its place.** -/
def underSelectors (parent : List (List (Option Combinator × List Simple))) :
    List (List (Option Combinator × List Simple)) →
    List (List (Option Combinator × List Simple))
  | [] => []
  | s :: r => underChain parent s :: underSelectors parent r

end

/-- **Selectors, written.** In a stylesheet that is not scoped no name is local. -/
def writeList (isLocal : Bool) (selectors : List Selector) : Written :=
  writeSelectors isLocal selectors

/-- The class that a selector consists of, if it is one. -/
def onlyClass? : Selector → Option Text
  | [(none, [.class name])] => some name
  | _ => none

end Selector

end ModuleHooks.Css
