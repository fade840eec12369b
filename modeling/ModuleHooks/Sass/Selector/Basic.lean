import ModuleHooks.Css.Lexer
import ModuleHooks.Sass.Syntax
/-!
# Selectors of a style sheet

A selector is a list of complex selectors; a complex selector is a row of compound
selectors and combinators; a compound selector is a row of simple selectors, and a simple
selector may hold a list of selectors again. Placeholders are selectors that match
nothing: a selector that has one is never written.
-/

namespace ModuleHooks.Sass

/-- What stands between two compound selectors. -/
inductive Combinator where
  | child
  | next
  | following
  deriving DecidableEq, Repr

/-- The sign of a combinator. -/
def Combinator.sign : Combinator → Char
  | .child => '>'
  | .next => '+'
  | .following => '~'

/-- The namespace of a name. -/
inductive Space where
  | default
  | empty
  | any
  | named (name : Text)
  deriving DecidableEq, Repr

/-- The namespace, written before a name. -/
def Space.write : Space → Text
  | .default => []
  | .empty => ['|']
  | .any => ['*', '|']
  | .named n => n ++ ['|']

mutual

/-- **A simple selector.** -/
inductive Simple where
  | universal (space : Space)
  | element (space : Space) (name : Text)
  | id (name : Text)
  | className (name : Text)
  | placeholder (name : Text)
  /-- An attribute; without an operator it only has to be there. -/
  | attribute (space : Space) (name : Text) (operator value : Text) (modifier : Option Char)
  /-- `isClass` tells pseudo-classes from pseudo-elements, `hasOneColon` says how it is
  written. -/
  | pseudo (name : Text) (isClass hasOneColon : Bool) (argument : Option Text)
    (inner : Option (List Complex))
  /-- The selector around, with something at its end. -/
  | parent (suffix : Text)

/-- **A piece of a complex selector.** -/
inductive Limb where
  | combinator (c : Combinator)
  | compound (simples : List Simple)

/-- **A complex selector.** -/
inductive Complex where
  /-- `onNewLine` says that a line ended before it. -/
  | of (limbs : List Limb) (onNewLine : Bool)

end

instance : Inhabited Complex := ⟨.of [] false⟩

/-- **A selector**: a list of complex selectors. -/
abbrev Selector := List Complex

/-- The pieces of a complex selector. -/
def Complex.limbs : Complex → List Limb
  | .of ls _ => ls

/-- Whether a line ended before the complex selector. -/
def Complex.onNewLine : Complex → Bool
  | .of _ b => b

/-- The simple selectors of a piece. -/
def Limb.simples : Limb → List Simple
  | .compound ss => ss
  | .combinator _ => []

/-- The name without the mark of a vendor before it. -/
def unvendored (t : Text) : Text :=
  match t with
  | '-' :: c :: r =>
    if c == '-' then t
    else
      match Text.splitFirst? "-" r with
      | some (_, rest) => rest
      | none => t
  | _ => t

/-! ## Visibility -/

mutual

/-- Whether a simple selector matches nothing. -/
def Simple.isHidden : Simple → Bool
  | .placeholder _ => true
  | .pseudo name _ _ _ (some inner) => name != ("not" : Text) && allHidden inner
  | _ => false

/-- Whether one of some simple selectors matches nothing. -/
def anyHidden : List Simple → Bool
  | [] => false
  | s :: r => s.isHidden || anyHidden r

/-- Whether a piece matches nothing. -/
def Limb.isHidden : Limb → Bool
  | .combinator _ => false
  | .compound ss => anyHidden ss

/-- Whether one of some pieces matches nothing. -/
def anyLimbHidden : List Limb → Bool
  | [] => false
  | l :: r => l.isHidden || anyLimbHidden r

/-- Whether a complex selector matches nothing. -/
def Complex.isHidden : Complex → Bool
  | .of ls _ => anyLimbHidden ls

/-- Whether all of some complex selectors match nothing. -/
def allHidden : List Complex → Bool
  | [] => true
  | c :: r => c.isHidden && allHidden r

end

/-! ## Writing -/

/-- Whether a text is a name. -/
def isName (t : Text) : Bool :=
  let rest := if t.head? == some '-' then t.drop 1 else t
  match rest with
  | c :: r =>
    (Css.Lexer.isNameStart c || (c == '-' && rest.length < t.length)) && r.all Css.Lexer.isNameChar
  | [] => false

/-- A text between quotes, with what may not stand between them escaped. -/
def writeQuoted (t : Text) : Text :=
  let q := if List.elem '"' t && !List.elem '\'' t then '\'' else '"'
  q :: inner q t ++ [q]
where
  /-- The characters between the quotes. -/
  inner (q : Char) : Text → Text
    | [] => []
    | c :: r =>
      if c == q || c == '\\' then '\\' :: c :: inner q r
      else if c.toNat < 32 && c != '\t' then
        let gap : Text :=
          match r with
          | d :: _ => if (Text.hexValue? d).isSome || d == ' ' || d == '\t' then [' '] else []
          | [] => []
        let digits :=
          if c.toNat > 15 then [Nat.digitChar (c.toNat / 16), Nat.digitChar (c.toNat % 16)]
          else [Nat.digitChar c.toNat]
        '\\' :: digits ++ gap ++ inner q r
      else c :: inner q r

/-- An attribute, written. A value that is a name has no quotes. -/
def writeAttribute (space : Space) (name operator value : Text) (modifier : Option Char) : Text :=
  let gap : Text := if modifier.isSome then [' '] else []
  let test :=
    if operator = [] then []
    else if isName value && !Text.startsWith value "--" then operator ++ value ++ gap
    else operator ++ writeQuoted value ++ gap
  '[' :: space.write ++ name ++ test ++ modifier.toList ++ [']']

mutual

/-- **A simple selector, written**; `all` says that what excludes nothing is written
too. -/
def Simple.write (all : Bool) : Simple → Text
  | .universal s => s.write ++ ['*']
  | .element s n => s.write ++ n
  | .id n => '#' :: n
  | .className n => '.' :: n
  | .placeholder n => '%' :: n
  | .attribute s n o v m => writeAttribute s n o v m
  | .parent suffix => '&' :: suffix
  | .pseudo name _ hasOneColon argument inner =>
    let front := (if hasOneColon then [':'] else [':', ':']) ++ name
    match inner with
    | none =>
      match argument with
      | none => front
      | some a => front ++ '(' :: a ++ [')']
    | some list =>
      if !all && name == ("not" : Text) && allHidden list then []
      else
        let a : Text :=
          match argument with
          | none => []
          | some a => a ++ [' ']
        front ++ '(' :: a ++ writeComplexes all true list ++ [')']

/-- Simple selectors, one after the other. -/
def writeSimples (all : Bool) : List Simple → Text
  | [] => []
  | s :: r => s.write all ++ writeSimples all r

/-- A piece, written. -/
def Limb.write (all : Bool) : Limb → Text
  | .combinator c => [c.sign]
  | .compound ss =>
    match writeSimples all ss with
    | [] => ['*']
    | t => t

/-- Pieces with spaces between them. -/
def writeLimbs (all : Bool) : List Limb → Text
  | [] => []
  | l :: r =>
    match writeLimbs all r with
    | [] => l.write all
    | t => l.write all ++ ' ' :: t

/-- A complex selector, written. -/
def Complex.write (all : Bool) : Complex → Text
  | .of ls _ => writeLimbs all ls

/-- Complex selectors with commas between them; those that match nothing are left out
unless all are wanted. -/
def writeComplexes (all isFirst : Bool) : List Complex → Text
  | [] => []
  | .of ls onNewLine :: r =>
    if !all && anyLimbHidden ls then writeComplexes all isFirst r
    else
      let gap : Text := if isFirst then [] else if onNewLine && !all then [',', '\n'] else [',', ' ']
      gap ++ writeLimbs all ls ++ writeComplexes all false r

end

/-- **A selector, written**, without what matches nothing. -/
def Selector.write (s : Selector) : Text := writeComplexes false true s

/-- A text that tells simple selectors apart. -/
def Simple.key (s : Simple) : Text := s.write true

/-- A text that tells complex selectors apart. -/
def Complex.key (c : Complex) : Text := c.write true

/-- A text that tells selectors apart. -/
def Selector.key (s : Selector) : Text := writeComplexes true true s

instance : BEq Simple := ⟨fun a b => a.key == b.key⟩
instance : BEq Limb := ⟨fun a b => a.write true == b.write true⟩
instance : BEq Complex := ⟨fun a b => a.key == b.key⟩

/-! ## Parts -/

/-- Whether a compound selector or a combinator. -/
def Limb.isCompound : Limb → Bool
  | .compound _ => true
  | .combinator _ => false

/-- The selector inside of a simple selector. -/
def Simple.inner? : Simple → Option Selector
  | .pseudo _ _ _ _ inner => inner
  | _ => none

/-- The simple selector with another selector inside. -/
def Simple.withInner (s : Simple) (inner : Selector) : Simple :=
  match s with
  | .pseudo n c o a _ => .pseudo n c o a (some inner)
  | s => s

/-- The name of a pseudo-class or a pseudo-element. -/
def Simple.pseudoName : Simple → Text
  | .pseudo n _ _ _ _ => unvendored n
  | _ => []

/-- Whether a simple selector is a pseudo-element. -/
def Simple.isPseudoElement : Simple → Bool
  | .pseudo _ isClass _ _ _ => !isClass
  | _ => false

/-! ## Specificity -/

mutual

/-- The least and the greatest specificity of a simple selector. -/
def Simple.specificity : Simple → Nat × Nat
  | .universal _ => (0, 0)
  | .element .. => (1, 1)
  | .id _ => (1000000, 1000000)
  | .pseudo name isClass _ _ inner =>
    if !isClass then (1, 1)
    else
      match inner with
      | none => (1000, 1000)
      | some list =>
        if name == ("not" : Text) then (greatestLeast list, greatestMost list)
        else (leastOf list, greatestMost list)
  | _ => (1000, 1000)

/-- The specificities of simple selectors, put together. -/
def sumSpecificity : List Simple → Nat × Nat
  | [] => (0, 0)
  | s :: r =>
    let (a, b) := s.specificity
    let (c, d) := sumSpecificity r
    (a + c, b + d)

/-- The specificities of pieces, put together. -/
def limbsSpecificity : List Limb → Nat × Nat
  | [] => (0, 0)
  | .compound ss :: r =>
    let (a, b) := sumSpecificity ss
    let (c, d) := limbsSpecificity r
    (a + c, b + d)
  | .combinator _ :: r => limbsSpecificity r

/-- The greatest of the least specificities. -/
def greatestLeast : List Complex → Nat
  | [] => 0
  | .of ls _ :: r => max (limbsSpecificity ls).1 (greatestLeast r)

/-- The greatest of the greatest specificities. -/
def greatestMost : List Complex → Nat
  | [] => 0
  | .of ls _ :: r => max (limbsSpecificity ls).2 (greatestMost r)

/-- The least of the least specificities. -/
def leastOf : List Complex → Nat
  | [] => 1000000000
  | .of ls _ :: r => min (limbsSpecificity ls).1 (leastOf r)

end

/-- The least specificity of a complex selector. -/
def Complex.least (c : Complex) : Nat := (limbsSpecificity c.limbs).1

/-- The greatest specificity of a complex selector. -/
def Complex.most (c : Complex) : Nat := (limbsSpecificity c.limbs).2

end ModuleHooks.Sass
