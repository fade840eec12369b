import ModuleHooks.Css.Component
import ModuleHooks.Path.Basic
/-!
# Faults of stylesheets

What can be wrong with a stylesheet, and how it is said: the mistake, then the file, the
line counted from nought and the column counted from one.
-/

namespace ModuleHooks.Css

/-- **A mistake in a stylesheet.** -/
inductive Mistake where
  | endOfInput
  | unknownAtRule (name : Text)
  | unexpected (t : Token)
  | emptySelector
  | danglingCombinator
  /-- A dot that no class name follows. -/
  | classNeedsIdent (t : Token)
  | namespaceToken (t : Token)
  | pseudoNeedsIdent (t : Token)
  /-- A bare `:local` or `:global`. -/
  | ambiguousScope
  /-- A selector where its surroundings forbid it. -/
  | invalidState
  | pseudoClassAfterElement
  /-- A pseudo class of scroll bars without one in front. -/
  | scrollbarClassAlone
  | pseudoClassAfterScrollbar
  | selectorAfterElement (t : Token)
  | missingNesting
  | attributeName (t : Token)
  | attributeQualifiedName (t : Token)
  | attributeBar (t : Token)
  | attributeOperator (t : Token)
  | attributeValue (t : Token)
  | invalidMediaQuery
  | invalidPageSelector
  | invalidRuleBody
  /-- A style rule where none is expected. -/
  | invalidQualifiedRule
  | invalidDeclaration
  | invalidValue
  /-- A rule of the old way to share values. -/
  | valueRule
  | lateImport
  | lateNamespace
  | tooDeep
  /-- A composition of something else than one class. -/
  | composesSelector
  /-- A composition inside other rules. -/
  | composesNested
  /-- Grid lines under a pattern that does not end with the local name. -/
  | gridPattern
  deriving DecidableEq, Repr

/-- **The wording of a mistake.** -/
def Mistake.message : Mistake → Text
  | .endOfInput => "Unexpected end of input"
  | .unknownAtRule name => ("Unknown at rule: @" : Text) ++ name
  | .unexpected t => ("Unexpected token " : Text) ++ t.shown
  | .emptySelector => "Invalid empty selector"
  | .danglingCombinator => "Invalid dangling combinator in selector"
  | .classNeedsIdent t => ("Expected identifier in class selector, got " : Text) ++ t.shown
  | .namespaceToken t => ("Unexpected token in namespace selector: " : Text) ++ t.shown
  | .pseudoNeedsIdent t => ("Invalid token in pseudo element: " : Text) ++ t.shown
  | .ambiguousScope => "Ambiguous CSS module class not supported"
  | .invalidState => "Invalid state"
  | .pseudoClassAfterElement =>
    "Invalid pseudo class after pseudo element, only user action pseudo classes (e.g. :hover, :active) are allowed"
  | .scrollbarClassAlone => "Pseudo class must be prefixed by a ::-webkit-scrollbar pseudo element"
  | .pseudoClassAfterScrollbar =>
    "Invalid pseudo class after ::-webkit-scrollbar pseudo element"
  | .selectorAfterElement t => ("Pseudo-elements like '::before' or '::after' can't be followed by selectors like '" : Text) ++ t.shown ++ ['\'']
  | .missingNesting => "A nested rule must have at least one nesting selector (&)"
  | .attributeName t =>
    ("No qualified name in attribute selector: " : Text) ++ t.shown ++ ['.']
  | .attributeQualifiedName t => ("Invalid qualified name in attribute selector: " : Text) ++ t.shown
  | .attributeBar t => ("Expected | in attribute, got " : Text) ++ t.shown
  | .attributeOperator t => ("Unexpected token in attribute selector: " : Text) ++ t.shown
  | .attributeValue t => ("Invalid value in attribute selector: " : Text) ++ t.shown
  | .invalidMediaQuery => "Invalid media query"
  | .invalidPageSelector => "Invalid page selector"
  | .invalidRuleBody => "Invalid @ rule body"
  | .invalidQualifiedRule => "Invalid qualified rule"
  | .invalidDeclaration => "Invalid declaration"
  | .invalidValue => "Invalid value"
  | .valueRule => "The @value rule is deprecated"
  | .lateImport =>
    "@import rules must precede all rules aside from @charset and @layer statements"
  | .lateNamespace =>
    "@namespaces rules must precede all rules aside from @charset, @import, and @layer statements"
  | .tooDeep => "Overflowed the maximum nesting depth"
  | .composesSelector =>
    ['T', 'h', 'e', ' ', Char.ofNat 96] ++ "composes".toList ++ [Char.ofNat 96] ++
      " property cannot be used with a simple class selector".toList
  | .composesNested =>
    ['T', 'h', 'e', ' ', Char.ofNat 96] ++ "composes".toList ++ [Char.ofNat 96] ++
      " property cannot be used within nested rules".toList
  | .gridPattern =>
    ("The CSS modules " : Text) ++ [Char.ofNat 96] ++ "pattern".toList ++ [Char.ofNat 96] ++
      " config must end with ".toList ++ [Char.ofNat 96] ++ "[local]".toList ++ [Char.ofNat 96] ++
      " for use in CSS grid line names.".toList

/-- **A fault**: a mistake and its place. -/
structure Fault where
  mistake : Mistake
  place : Place
  deriving DecidableEq, Repr

/-- The wording of a fault in a file. -/
def Fault.message (filename : Path) (f : Fault) : Text :=
  f.mistake.message ++ " at ".toList ++ filename ++ ':' :: Text.ofNat f.place.line ++
    ':' :: Text.ofNat f.place.column

end ModuleHooks.Css
