import ModuleHooks.Css.Fault
import ModuleHooks.Css.Spelling
/-!
# Written stylesheets

What is written of a stylesheet is a list of pieces. Most of them are text; the others
are what scoping acts on: the local names, which become scoped names, and the
compositions, which leave no text at all.
-/

namespace ModuleHooks.Css

/-- **A piece of a written stylesheet.** -/
inductive Piece where
  | text (t : Text)
  /-- A name that is local to the stylesheet. -/
  | local (name : Text)
  /-- The name of a grid line or a grid area. -/
  | gridLine (name : Text)
  /-- A line end, and so many columns more than the line was indented. -/
  | lineBreak (columns : Nat)
  /-- Classes that a local class is composed with. -/
  | composition (of : Text) (names : List Text) (source : Option Text) (isGlobal : Bool)
  /-- A fault that scoping finds. -/
  | fault (f : Fault)
  deriving DecidableEq, Repr

/-- What is written. -/
abbrev Written := List Piece

namespace Written

/-- A text as it is. -/
def text (t : Text) : Written := [.text t]

/-- A local name. -/
def ofLocal (name : Text) : Written := [.local name]

/-- Parts with a text between each two of them. -/
def joined (sep : Text) : List Written → Written
  | [] => []
  | [w] => w
  | w :: r => w ++ .text sep :: joined sep r

/-- A part in round brackets after a name. -/
def call (name : Text) (w : Written) : Written :=
  .text (name ++ ['(']) :: w ++ [.text [')']]

/-- What is written with its local names as they are. -/
def unscoped (w : Written) : Written :=
  w.map fun
    | .local name => .text (writeIdent name)
    | p => p

/-- What is written before names are scoped. -/
def plain (w : Written) : Text :=
  w.flatMap fun
    | .text t => t
    | .local name => name
    | .gridLine name => name
    | _ => []

end Written

instance : Coe Text Written := ⟨Written.text⟩

end ModuleHooks.Css
