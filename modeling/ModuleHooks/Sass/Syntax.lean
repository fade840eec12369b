import ModuleHooks.Sass.Color
import ModuleHooks.Sass.Fault
/-!
# Syntax of a style sheet

What the reader makes of a source. Texts in which code may stand are *templates*: pieces
of text with expressions between them. Names are kept with hyphens for underscores,
because the two stand for each other.
-/

namespace ModuleHooks.Sass

/-- What stands between the items of a list. -/
inductive Separator where
  | space
  | comma
  | slash
  /-- A list of no or one item has none yet. -/
  | undecided
  deriving DecidableEq, Repr, Inhabited

/-- An operator between two operands. -/
inductive BinaryOp where
  | assign
  | or
  | and
  | equal
  | notEqual
  | greater
  | greaterEqual
  | less
  | lessEqual
  | plus
  | minus
  | times
  | divide
  | modulo
  deriving DecidableEq, Repr

/-- How strongly an operator binds. -/
def BinaryOp.rank : BinaryOp → Nat
  | .assign => 0
  | .or => 1
  | .and => 2
  | .equal | .notEqual => 3
  | .greater | .greaterEqual | .less | .lessEqual => 4
  | .plus | .minus => 5
  | .times | .divide | .modulo => 6

/-- The operator, written. -/
def BinaryOp.write : BinaryOp → Text
  | .assign => "="
  | .or => "or"
  | .and => "and"
  | .equal => "=="
  | .notEqual => "!="
  | .greater => ">"
  | .greaterEqual => ">="
  | .less => "<"
  | .lessEqual => "<="
  | .plus => "+"
  | .minus => "-"
  | .times => "*"
  | .divide => "/"
  | .modulo => "%"

/-- An operator before one operand. -/
inductive UnaryOp where
  | plus
  | minus
  | slash
  | not
  deriving DecidableEq, Repr

/-- A calculation that the browser may have to finish. -/
inductive CalcName where
  | calc
  | min
  | max
  | clamp
  deriving DecidableEq, Repr

/-- The name of a calculation. -/
def CalcName.write : CalcName → Text
  | .calc => "calc"
  | .min => "min"
  | .max => "max"
  | .clamp => "clamp"

/-- A name, with the place where it stands. -/
structure Named where
  /-- The name. -/
  name : Text
  /-- Where it stands. -/
  span : Span
  deriving Inhabited

mutual

/-- **A piece of a template.** -/
inductive Part where
  | text (t : Text)
  | code (e : Expr) (span : Span)

/-- **An expression.** -/
inductive Expr where
  | null
  | truth (b : Bool)
  | number (value : Binary) (units : Units)
  | color (c : Color)
  | text (parts : List Part) (isQuoted : Bool)
  | list (items : List (Expr × Span)) (separator : Separator) (isBracketed : Bool)
  | map (entries : List ((Expr × Span) × Expr))
  | var (name : Named) (space : Option Named)
  | parent
  | paren (e : Expr)
  | unary (op : UnaryOp) (e : Expr) (span : Span)
  /-- `isQuotient` says that the two operands may be written with the slash again. -/
  | binary (op : BinaryOp) (left right : Expr) (isQuotient : Bool) (span : Span)
  | calculation (name : CalcName) (args : List Expr) (span : Span)
  | call (name : Text) (space : Option Named) (args : Arguments) (span : Span)
  /-- A function whose name has code in it. -/
  | plainCall (name : List Part) (args : Arguments) (span : Span)
  /-- One of two expressions, by a third one. -/
  | choice (args : Arguments)
  | condition (c : Condition)

/-- **The arguments of a call.** -/
inductive Arguments where
  | of (positional : List Expr) (named : List (Text × Expr)) (rest keywordRest : Option Expr)
    (span : Span)

/-- **What a browser has to support.** -/
inductive Condition where
  | operation (left right : Condition) (operator : Text)
  | negation (c : Condition)
  | code (e : Expr)
  | declaration (name value : Expr)
  | function (name arguments : List Part)
  | anything (contents : List Part)

end

instance : Inhabited Expr := ⟨.null⟩

/-- An expression with its place. -/
abbrev Placed := Expr × Span

/-- **A template.** -/
abbrev Template := List Part

namespace Template

/-- A template of text only. -/
def ofText (t : Text) : Template := if t = [] then [] else [.text t]

/-- The text at the front of a template. -/
def front : Template → Text
  | .text s :: r => s ++ front r
  | _ => []

/-- The text of a template that has no code. -/
def plain? : Template → Option Text
  | [] => some []
  | .text s :: r => (plain? r).map (s ++ ·)
  | .code .. :: _ => none

end Template

/-- A parameter with its default. -/
structure Parameter where
  /-- The name. -/
  name : Text
  /-- What it is when no argument is given for it. -/
  fallback : Option Expr

/-- **Parameters.** -/
structure Parameters where
  /-- The parameters that take one argument each. -/
  single : List Parameter := []
  /-- The parameter that takes all the other arguments. -/
  rest : Option Text := none
  /-- Where the parameters stand. -/
  span : Span
  deriving Inhabited

/-- A variable that a module is told the value of. -/
structure Setting where
  /-- The name of the variable. -/
  name : Text
  /-- The value. -/
  value : Placed
  /-- Another value that the module was told before wins. -/
  isGuarded : Bool
  /-- Where the setting stands. -/
  span : Span

/-- Which members a module passes on. -/
inductive Shown where
  | all
  /-- Only these variables and these other members. -/
  | only (vars others : List Text)
  /-- All but these variables and these other members. -/
  | allBut (vars others : List Text)

/-- What an import names. -/
inductive Import where
  | file (url : Text) (span : Span)
  | css (url : Template) (modifiers : Option Template) (span : Span)

/-- A value for a variable. -/
structure Assignment where
  /-- The variable. -/
  name : Named
  /-- The module that it belongs to. -/
  space : Option Named
  /-- The value. -/
  value : Placed
  /-- A value that is there already wins. -/
  isGuarded : Bool
  /-- The variable of the whole module is meant. -/
  isGlobal : Bool
  /-- Where the assignment stands. -/
  span : Span

/-- **A statement.** -/
inductive Stmt where
  | assign (a : Assignment)
  | style (name : Template) (value : Option Placed) (body : List Stmt) (span : Span)
  | rule (selector : Template) (selectorSpan : Span) (body : List Stmt) (span : Span)
  | media (query : Template) (querySpan : Span) (body : List Stmt) (span : Span)
  | supports (condition : Condition) (body : List Stmt) (span : Span)
  | atRoot (query : Option (Template × Span)) (body : List Stmt) (span : Span)
  | unknown (name : Template) (value : Option Template) (body : Option (List Stmt))
    (span : Span)
  | comment (text : Template) (span : Span)
  | silent
  | choose (clauses : List (Expr × List Stmt)) (fallback : List Stmt)
  | count (counter : Text) (first last : Placed) (isExclusive : Bool) (body : List Stmt)
  | each (vars : List Text) (list : Expr) (body : List Stmt)
  | loop (condition : Expr) (body : List Stmt)
  | give (value : Expr) (span : Span)
  | fail (value : Expr) (span : Span)
  /-- A value for the reader of the log. A warning has to be writable in a style sheet. -/
  | remark (value : Expr) (isWarning : Bool) (span : Span)
  | function (name : Text) (parameters : Parameters) (body : List Stmt)
  | mixin (name : Text) (parameters : Parameters) (hasContent : Bool) (body : List Stmt)
  | mixinCall (name : Named) (space : Option Named) (args : Arguments)
    (content : Option (Parameters × List Stmt)) (span : Span)
  | content (args : Arguments)
  | extend (selector : Template) (isOptional : Bool) (span : Span)
  | imports (items : List Import)
  /-- A module that is used under a name; without a name its members need none. -/
  | use (url : Text) (space : Option Text) (settings : List Setting) (span : Span)
  | forward (url : Text) (front : Text) (shown : Shown) (settings : List Setting) (span : Span)

instance : Inhabited Stmt := ⟨.silent⟩

/-- Which notation a source is written in. -/
inductive Dialect where
  /-- Blocks in curly brackets. -/
  | braces
  /-- Blocks by indentation. -/
  | indented
  /-- Style sheets without any code. -/
  | plain
  deriving DecidableEq, Repr, Inhabited

/-- **A style sheet.** -/
structure Sheet where
  /-- The path of its source. -/
  path : Path
  /-- The notation of its source. -/
  dialect : Dialect
  /-- Its statements. -/
  body : List Stmt
  deriving Inhabited

end ModuleHooks.Sass
