import ModuleHooks.Sass.Selector.Basic
/-!
# Values

What expressions come to. A value can be written as a part of a style sheet, or so that a
reader of a message knows what it is; the first of the two is not possible for all
values.
-/

namespace ModuleHooks.Sass

/-- **The names that can be used at some place**: the scopes around it, the innermost
first, the modules and the block that a mixin was called with. All of them are kept
elsewhere, under numbers. -/
structure Env where
  /-- The scopes. -/
  scopes : List Nat
  /-- The modules. -/
  table : Nat
  /-- The block that the mixin was called with. -/
  content : Option Nat := none
  deriving Inhabited

/-- A function. -/
inductive Callable where
  /-- A function that is always there, in a module or, under another name, in none. -/
  | builtin (module name : Text)
  /-- A function of a style sheet. -/
  | user (name : Text) (parameters : Parameters) (body : List Stmt) (env : Env)
  /-- A function of the browser. -/
  | plain (name : Text)

/-- The name of a function. -/
def Callable.name : Callable → Text
  | .builtin _ n => n
  | .user n _ _ _ => n
  | .plain n => n

/-- **A calculation** that the browser finishes. -/
inductive Calc where
  | number (n : Number)
  | text (t : Text)
  /-- A text that has to stand in brackets. -/
  | code (t : Text)
  | operation (op : BinaryOp) (left right : Calc)
  | call (name : CalcName) (args : List Calc)

mutual

/-- Whether two calculations are the same. -/
def Calc.same : Calc → Calc → Bool
  | .number m, .number n => m.same n
  | .text s, .text t => s == t
  | .code s, .code t => s == t
  | .operation o a b, .operation p c d => o == p && a.same c && b.same d
  | .call f xs, .call g ys => f == g && calcsSame xs ys
  | _, _ => false

/-- Whether two lists of calculations are the same. -/
def calcsSame : List Calc → List Calc → Bool
  | [], [] => true
  | a :: r, b :: s => a.same b && calcsSame r s
  | _, _ => false

end

/-- **A value.** -/
inductive Value where
  | null
  | truth (b : Bool)
  | number (n : Number)
  | color (c : Color)
  | text (t : Text) (isQuoted : Bool)
  | list (items : List Value) (separator : Separator) (isBracketed : Bool)
  /-- The other arguments of a call. The number tells whether somebody has looked at
  those that have names. -/
  | arguments (items : List Value) (named : List (Text × Value)) (separator : Separator)
    (mark : Nat)
  | map (entries : List (Value × Value))
  | function (f : Callable)
  | calculation (c : Calc)

instance : Inhabited Value := ⟨.null⟩

namespace Value

/-- A text without quotes. -/
def word (t : Text) : Value := .text t false

/-- Whether a value counts as true. -/
def isTruthy : Value → Bool
  | .null => false
  | .truth b => b
  | _ => true

mutual

/-- Whether nothing is written for a value. -/
def isBlank : Value → Bool
  | .null => true
  | .text t false => t.isEmpty
  | .list _ _ true => false
  | .list items _ false => allBlank items
  | .arguments items named _ _ => !(items.isEmpty && named.isEmpty) && allBlank items
  | _ => false

/-- Whether nothing is written for any of some values. -/
def allBlank : List Value → Bool
  | [] => true
  | v :: r => v.isBlank && allBlank r

end

/-- Whether a value is a list without items. -/
def isEmptyList : Value → Bool
  | .list [] _ _ => true
  | .map [] => true
  | .arguments [] [] _ _ => true
  | _ => false

/-- **A value as a list.** A map is a list of pairs, and any other value that is no list
is a list of itself. -/
def items : Value → List Value
  | .list items _ _ => items
  | .arguments items _ _ _ => items
  | .map entries => entries.map fun (k, v) => .list [k, v] .space false
  | v => [v]

/-- What stands between the items of a value as a list. -/
def separator : Value → Separator
  | .list _ s _ => s
  | .arguments _ _ s _ => s
  | .map [] => .undecided
  | .map _ => .comma
  | _ => .undecided

/-- Whether a value is a list in square brackets. -/
def isBracketed : Value → Bool
  | .list _ _ b => b
  | _ => false

/-- The entries of a value as a map. A list without items is a map without entries. -/
def entries? : Value → Option (List (Value × Value))
  | .map es => some es
  | .list [] _ _ => some []
  | .arguments [] _ _ _ => some []
  | _ => none

mutual

/-- **Whether two values are the same.** Texts are the same with and without quotes. -/
def same : Value → Value → Bool
  | .null, .null => true
  | .truth a, .truth b => a == b
  | .number m, .number n => m.same n
  | .color c, .color d => c.same d
  | .text s _, .text t _ => s == t
  | .list xs s b, .list ys t c => s == t && b == c && allSame xs ys
  | .list xs _ _, .map es => xs.isEmpty && es.isEmpty
  | .arguments xs _ _ _, .list ys s _ => s == .comma && allSame xs ys
  | .arguments xs more _ _, .arguments ys others _ _ => allSame xs ys && namedSame more others
  | .map es, .map fs => es.length == fs.length && entriesSame es fs
  | .map es, .list ys _ _ => es.isEmpty && ys.isEmpty
  | .function f, .function g => f.name == g.name
  | .calculation c, .calculation d => c.same d
  | _, _ => false

/-- Whether two lists of values are the same. -/
def allSame : List Value → List Value → Bool
  | [], [] => true
  | x :: xs, y :: ys => same x y && allSame xs ys
  | _, _ => false

/-- Whether two lists of arguments with names are the same. -/
def namedSame : List (Text × Value) → List (Text × Value) → Bool
  | [], [] => true
  | (m, v) :: r, (n, w) :: s => m == n && same v w && namedSame r s
  | _, _ => false

/-- Whether each entry is found in another map. -/
def entriesSame : List (Value × Value) → List (Value × Value) → Bool
  | [], _ => true
  | (k, v) :: r, fs => (fs.any fun f => same k f.1 && same v f.2) && entriesSame r fs

end

/-- The value of a key. -/
def find? (key : Value) (entries : List (Value × Value)) : Option Value :=
  (entries.find? fun e => e.1.same key).map (·.2)

/-- The entries with another value for a key; a new key stands at the end. -/
def insert (key value : Value) : List (Value × Value) → List (Value × Value)
  | [] => [(key, value)]
  | (k, v) :: r => if k.same key then (k, value) :: r else (k, v) :: insert key value r

/-- A value that forgets that it was written as a quotient. -/
def computed : Value → Value
  | .number n => .number n.computed
  | v => v

end Value

/-! ## Writing -/

/-- Why a value cannot be written. -/
structure Unwritable where
  /-- What is wrong with it. -/
  message : Text
  /-- It is a number, whose place nobody knows. -/
  isNumber : Bool

/-- **A number, written.** A message shows numbers whose units no style sheet may have. -/
def Number.show (inMessage : Bool) : Number → Except Unwritable Text
  | .of _ _ (some (m, n)) => do
    return (← m.show inMessage) ++ '/' :: (← n.show inMessage)
  | .of v u none =>
    if !inMessage && u.isComplex then
      throw ⟨(Number.plain v u).write ++ " isn't a valid CSS value.".toList, true⟩
    else return (Number.plain v u).write

/-- Whether the right operand of an operator has to stand in brackets. -/
def needsBrackets (outer inner : BinaryOp) : Bool :=
  if outer = .divide then true
  else if outer = .plus then false
  else inner == .plus || inner == .minus

mutual

/-- **A calculation, written.** -/
def Calc.show (inMessage : Bool) : Calc → Except Unwritable Text
  | .number n => n.show inMessage
  | .text t => return t
  | .code t => return t
  | .call name args => do
    return name.write ++ '(' :: (← showCalcs inMessage args) ++ [')']
  | .operation op l r => do
    let left ← l.show inMessage
    let right ← r.show inMessage
    let wrap (b : Bool) (t : Text) : Text := if b then '(' :: t ++ [')'] else t
    let wrapsLeft :=
      match l with
      | .code _ => true
      | .operation op₂ _ _ => decide (op₂.rank < op.rank)
      | _ => false
    let wrapsRight :=
      match r with
      | .code _ => true
      | .operation op₂ _ _ => needsBrackets op op₂
      | _ => false
    return wrap wrapsLeft left ++ ' ' :: op.write ++ ' ' :: wrap wrapsRight right

/-- Calculations with commas between them. -/
def showCalcs (inMessage : Bool) : List Calc → Except Unwritable Text
  | [] => return []
  | [c] => c.show inMessage
  | c :: r => do
    return (← c.show inMessage) ++ ',' :: ' ' :: (← showCalcs inMessage r)

end

/-- A text without quotes, where the end of a line is a space. -/
def writeUnquoted : Bool → Text → Text
  | _, [] => []
  | afterLine, c :: r =>
    if c = '\n' then ' ' :: writeUnquoted true r
    else if c = ' ' && afterLine then writeUnquoted true r
    else c :: writeUnquoted false r

/-- What is written between the items of a list. -/
def Separator.write : Separator → Text
  | .comma => [',', ' ']
  | .slash => [' ', '/', ' ']
  | _ => [' ']

/-- Whether an item stands in brackets in a message. -/
def itemNeedsBrackets (outer : Separator) : Value → Bool
  | .list items inner false =>
    if items.length < 2 then false
    else
      match outer with
      | .comma => inner == .comma
      | .slash => inner == .comma || inner == .slash
      | _ => inner != .undecided
  | _ => false

/-- Whether a key or a value of a map stands in brackets in a message. -/
def entryNeedsBrackets : Value → Bool
  | .list _ .comma false => true
  | _ => false

mutual

/-- **A value, written**: as a part of a style sheet, or in a message. -/
def Value.show (inMessage : Bool) : Value → Except Unwritable Text
  | .null => return if inMessage then "null" else []
  | .truth b => return if b then "true" else "false"
  | .number n => n.show inMessage
  | .color c => return c.write
  | .text t true => return writeQuoted t
  | .text t false => return writeUnquoted false t
  | .calculation c => c.show inMessage
  | .function f =>
    let t := "get-function(".toList ++ writeQuoted f.name ++ [')']
    if inMessage then return t else throw ⟨t ++ " isn't a valid CSS value.".toList, false⟩
  | .map entries => do
    let t := '(' :: (← showEntries entries) ++ [')']
    if inMessage then return t else throw ⟨t ++ " isn't a valid CSS value.".toList, false⟩
  | .arguments items named _ _ => do
    if items.isEmpty && named.isEmpty then
      if inMessage then return "()" else throw ⟨"() isn't a valid CSS value.", false⟩
    else
      let inner ← showItems inMessage .comma items
      if inMessage && items.length == 1 then return '(' :: inner ++ [',', ')'] else return inner
  | .list items s true => do
    let inner ← showItems inMessage s items
    let mark : Text :=
      if inMessage && items.length == 1 then
        if s = .comma then [','] else if s = .slash then ['/'] else []
      else []
    return '[' :: inner ++ mark ++ [']']
  | .list items s false => do
    if items.isEmpty then
      if inMessage then return "()" else throw ⟨"() isn't a valid CSS value.", false⟩
    else
      let inner ← showItems inMessage s items
      if inMessage && items.length == 1 && s = .comma then return '(' :: inner ++ [',', ')']
      else if inMessage && items.length == 1 && s = .slash then return '(' :: inner ++ ['/', ')']
      else return inner

/-- The items of a list, written. In a style sheet those are left out for which nothing
is written. -/
def showItems (inMessage : Bool) (s : Separator) : List Value → Except Unwritable Text
  | [] => return []
  | v :: r =>
    if !inMessage && v.isBlank then showItems inMessage s r
    else do
      let t ← v.show inMessage
      let t := if inMessage && itemNeedsBrackets s v then '(' :: t ++ [')'] else t
      if (if inMessage then r.isEmpty else Value.allBlank r) then return t
      else return t ++ s.write ++ (← showItems inMessage s r)

/-- The entries of a map, written. -/
def showEntries : List (Value × Value) → Except Unwritable Text
  | [] => return []
  | (k, v) :: r => do
    let wrap (b : Bool) (t : Text) : Text := if b then '(' :: t ++ [')'] else t
    let t := wrap (entryNeedsBrackets k) (← k.show true) ++ ':' :: ' '
      :: wrap (entryNeedsBrackets v) (← v.show true)
    if r.isEmpty then return t else return t ++ ',' :: ' ' :: (← showEntries r)

end

/-- **A value in a message.** -/
def Value.inspect (v : Value) : Text :=
  match v.show true with
  | .ok t => t
  | .error e => e.message

/-- A value in a style sheet. -/
def Value.css (v : Value) (span : Span) : Except Fault Text :=
  match v.show false with
  | .ok t => .ok t
  | .error e => .error (.misplaced e.message span)

end ModuleHooks.Sass
