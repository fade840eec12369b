import ModuleHooks.Sass.Calculation
import ModuleHooks.Sass.Evaluation.Call
import ModuleHooks.Sass.Operator
/-!
# Expressions

One step of the evaluation of an expression, by the evaluation of the expressions inside
of it and of the statements of the functions that it calls. What comes out of a function
of the browser is a text.
-/

namespace ModuleHooks.Sass

mutual

/-- A value whose texts have no quotes. -/
def Value.unquoted : Value → Value
  | .text t _ => .text t false
  | .list items s b => .list (unquotedAll items) s b
  | v => v

/-- Values whose texts have no quotes. -/
def unquotedAll : List Value → List Value
  | [] => []
  | v :: r => v.unquoted :: unquotedAll r

end

/-- Whether a character is blank, among those of ASCII. -/
def isAsciiBlank (c : Char) : Bool :=
  c == ' ' || c == '\t' || c == '\n' || c == '\r' || c == '\x0c'

/-- A text without the blanks around it. A blank that is escaped stays. -/
def trimmed (t : Text) : Text :=
  let front := Text.trimStart isAsciiBlank t
  let kept := Text.trimEnd isAsciiBlank front
  if kept.getLast? == some '\\' && kept.length < front.length && kept.length > 1 then
    front.take (kept.length + 1)
  else kept

/-- What a call was given: arguments as they were written, or values. -/
inductive Passed where
  | written (a : Arguments)
  | known (g : Given)

namespace Eval

section

variable (ev : Evaluator) (run : Runner)

/-! ## Templates -/

/-- A piece of a template, written. -/
def part (p : Part) : Eval Text := do
  match p with
  | .text t => return t
  | .code e span => (← ev e).unquoted.css span

/-- **A template**, written. -/
def template (t : Template) : Eval Text := return (← t.mapM (part ev)).flatten

/-- A piece of a text. Texts are taken as they are. -/
def rawPart (p : Part) : Eval Text := do
  match p with
  | .text t => return t
  | .code e span =>
    match ← ev e with
    | .text t _ => return t
    | v => v.unquoted.css span

/-- A text. -/
def textOf (parts : List Part) : Eval Text :=
  withFlags (fun f => { f with inSupports := false }) do
    return (← parts.mapM (rawPart ev)).flatten

/-- The place of what has none. -/
def nowhere : Eval Span := return Span.front (← get).main

/-! ## Conditions of support -/

/-- Whether a condition has to stand in brackets inside of another one. -/
def conditionNeedsBrackets (outer : Option Text) : Condition → Bool
  | .negation _ => true
  | .operation _ _ operator => some operator != outer
  | _ => false

/-- **A condition of support**, written. -/
def condition : Condition → Eval Text
  | .operation left right operator => do
    let wrap (c : Condition) (t : Text) : Text :=
      if conditionNeedsBrackets (some operator) c then '(' :: t ++ [')'] else t
    let a ← condition left
    let b ← condition right
    return wrap left a ++ ' ' :: operator ++ ' ' :: wrap right b
  | .negation c => do
    let t ← condition c
    return "not ".toList ++ if conditionNeedsBrackets none c then '(' :: t ++ [')'] else t
  | .code e => do (← ev e).unquoted.css (← nowhere)
  | .declaration name value =>
    withFlags (fun f => { f with inSupports := true }) do
      let isCustom :=
        match name with
        | .text parts false => Text.startsWith (Template.front parts) "--"
        | _ => false
      let n ← (← ev name).css (← nowhere)
      let v ← (← ev value).css (← nowhere)
      return '(' :: n ++ ':' :: (if isCustom then [] else [' ']) ++ v ++ [')']
  | .function name arguments => do
    return (← template ev name) ++ '(' :: (← template ev arguments) ++ [')']
  | .anything contents => do return '(' :: (← template ev contents) ++ [')']

/-! ## Calculations -/

/-- Whether an expression is a call of a variable of the browser. -/
def isVarCall : Expr → Bool
  | .call name _ _ _ => Text.lowerAscii name == ("var" : Text)
  | _ => false

/-- **An operand of a calculation.** The first argument bounds how deep operands go. -/
def calcWithin (isLenient : Bool) (span : Span) : Nat → Expr → Eval Calc
  | 0, _ => fail "Expected number, variable, function, or calculation." span
  | n + 1, e => do
    match e with
    | .paren inner =>
      match ← calcWithin isLenient span n inner with
      | .text t => return .text (if isVarCall inner then '(' :: t ++ [')'] else t)
      | c => return c
    | .text parts _ => return .code (← template ev parts)
    | .binary op left right _ _ =>
      let a ← calcWithin isLenient span n left
      let b ← calcWithin isLenient span n right
      if (← get).flags.inSupports then return .operation op a b
      else Calc.operate op a b isLenient span
    | e => Calc.ofValue (← ev e) span

/-- How many operators an expression can have inside of each other. -/
def calcDepth : Nat := 1000

/-- **A calculation.** -/
def calculation (name : CalcName) (args : List Expr) : Eval Value := do
  let span ← nowhere
  let args ← args.mapM (calcWithin ev (name == .min || name == .max) span calcDepth)
  if (← get).flags.inSupports then return .calculation (.call name args)
  else Calc.finish name args span

/-! ## Calls -/

/-- The values of what a call was given. -/
def given (p : Passed) (span : Span) : Eval Given :=
  match p with
  | .written a => arguments ev a span
  | .known g => return g

/-- A call of a function of the browser. -/
def browserCall (name : Text) (p : Passed) (span : Span) : Eval Value := do
  let refuse : Eval Unit := fail "Plain CSS functions don't support keyword arguments." span
  let args ←
    match p with
    | .written (.of positional named rest keywordRest _) =>
      if !named.isEmpty || keywordRest.isSome then refuse
      let first ← positional.mapM fun e => do (← ev e).css span
      let more ← rest.toList.mapM fun e => do (← ev e).css span
      pure (first ++ more)
    | .known g =>
      if !g.named.isEmpty then refuse
      g.positional.mapM fun v => v.css span
  return .word (name ++ '(' :: Text.join ", " args ++ [')'])

/-- The value that the statements of a function give. -/
def functionBody (body : List Stmt) (span : Span) : Eval Value := do
  match ← run body with
  | some v => return v
  | none => fail "Function finished without @return." span

/-- A function that looks at the names around the call may call another one, which may
look as well. The first argument bounds how often. -/
def callWithin : Nat → Callable → Passed → Span → Eval Value
  | 0, _, _, span => fail "Undefined function." span
  | n + 1, f, p, span => do
    match f with
    | .builtin module name =>
      let g ← given ev p span
      if Function.isLooker module name then
        return (← look (fun f g => callWithin n f (.known g) span) name g).computed
      else
        match Function.find? module name with
        | some b => return (← ask g b).computed
        | none => fail "Undefined function." span
    | .user _ parameters body env =>
      let g ← given ev p span
      withArguments ev parameters env g span (functionBody run body span)
    | .plain name => browserCall ev name p span

/-- **A call.** A name that stands for no function is one of the browser's. -/
def call (name : Text) (module : Option Named) (args : Arguments) (span : Span) : Eval Value := do
  let found ← find? Machine.functions name module
  let f ←
    match found with
    | some f => pure f
    | none =>
      if Function.isThere [] name then pure (Callable.builtin [] name)
      else if module.isSome then fail "Undefined function." span
      else pure (Callable.plain name)
  withFlags (fun f => { f with inFunction := true }) (callWithin ev run 100 f (.written args) span)

/-- The parameters of a choice. -/
def choiceNames : List Text := List.map String.toList ["condition", "if-true", "if-false"]

/-- **One of two expressions**; the other one is not evaluated. -/
def choice (a : Arguments) : Eval Value := do
  match a with
  | .of positional named _ _ span =>
    let plain : Given :=
      { positional := positional.map fun _ => .null
        named := named.map fun n => (n.1, .null)
        span }
    let parameters : Parameters := { single := choiceNames.map fun n => ⟨n, none⟩, span }
    parameters.check plain
    let arg (i : Nat) : Expr :=
      (positional[i]?).getD ((Text.lookup? (choiceNames.getD i []) named).getD .null)
    let isTrue := (← ev (arg 0)).isTruthy
    return (← ev (arg (if isTrue then 1 else 2))).computed

/-! ## Expressions -/

/-- The entries of a map, whose keys have to differ. -/
def entries : List (Placed × Expr) → List (Value × Value) → Eval (List (Value × Value))
  | [], acc => return acc.reverse
  | ((k, span), v) :: r, acc => do
    let key ← ev k
    let value ← ev v
    if acc.any fun e => e.1.same key then fail "Duplicate key." span
    else entries r ((key, value) :: acc)

/-- An operator between two expressions. The second one is left alone where the first one
decides. -/
def binary (op : BinaryOp) (left right : Expr) (isQuotient : Bool) (span : Span) : Eval Value := do
  let a ← ev left
  match op with
  | .or => if a.isTruthy then return a else ev right
  | .and => if a.isTruthy then ev right else return a
  | .divide =>
    let b ← ev right
    if isQuotient then Operator.keptQuotient a b span else Operator.quotient a b span
  | op => do
    let b ← ev right
    Operator.apply op a b span

/-- **One step of the evaluation of an expression.** -/
def exprStep (e : Expr) : Eval Value := do
  match e with
  | .null => return .null
  | .truth b => return .truth b
  | .number v units => return .number (.plain v units)
  | .color c => return .color c
  | .text parts isQuoted => return .text (← textOf ev parts) isQuoted
  | .list items s isBracketed => return .list (← items.mapM fun i => ev i.1) s isBracketed
  | .map es => return .map (← entries ev es [])
  | .var name module => valueOf name module
  | .parent =>
    let m ← get
    return (m.rule.map fun s => (m.store.selector s).value).getD .null
  | .paren e => ev e
  | .unary op e span => do Operator.applyUnary op (← ev e) span
  | .binary op left right isQuotient span => binary ev op left right isQuotient span
  | .calculation name args _ => calculation ev name args
  | .call name module args span => call ev run name module args span
  | .plainCall name args span => do browserCall ev (← template ev name) (.written args) span
  | .choice args => choice ev args
  | .condition c => return .word (← condition ev c)

end

end Eval

end ModuleHooks.Sass
