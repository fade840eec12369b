import ModuleHooks.Sass.Machine
/-!
# Calls

The arguments of a call are evaluated where the call stands, and the parameters get them
where the function, the mixin or the block was written. A parameter for all the other
arguments takes those by name as well; whoever wrote it has to look at them, or they are
told to be unknown after the call.
-/

namespace ModuleHooks.Sass

/-- The evaluation of an expression. -/
abbrev Evaluator := Expr → Eval Value

/-- The evaluation of statements, up to the first that gives a value. -/
abbrev Runner := List Stmt → Eval (Option Value)

namespace Parameters

/-- Goes through the parameters that take one argument each, with their positions. -/
def checkSingle (g : Given) : Nat → List Parameter → Except Fault Unit
  | _, [] => return ()
  | i, p :: r => do
    let isNamed := (Text.lookup? p.name g.named).isSome
    if i < g.positional.length then
      if isNamed then
        throw (.misplaced ("Argument $".toList ++ p.name
          ++ " was passed both by position and by name.".toList) g.span)
    else if !isNamed && p.fallback.isNone then
      throw (.misplaced ("Missing argument $".toList ++ p.name ++ ['.']) g.span)
    checkSingle g (i + 1) r

/-- **Whether the arguments of a call fit.** -/
def check (p : Parameters) (g : Given) : Except Fault Unit := do
  checkSingle g 0 p.single
  if p.rest.isNone then
    let most := p.single.length
    let count := g.positional.length
    if count > most then
      throw (.misplaced ("Only ".toList ++ Text.ofNat most
        ++ (if g.named.isEmpty then " argument" else " positional argument").toList
        ++ (if most = 1 then [] else ['s']) ++ " allowed, but ".toList ++ Text.ofNat count
        ++ (if count = 1 then " was passed." else " were passed.").toList) g.span)
    let unknown := (g.named.map (·.1)).filter fun n => !(p.single.any fun q => q.name == n)
    if !unknown.isEmpty then throw (.misplaced (unknownNames unknown) g.span)

end Parameters

namespace Eval

/-- Arguments by name from the entries of a map. The places are those of the keys, as far as
they are known. -/
def namedArguments (span : Span) : List (Value × Value) → List Span → Eval (Index Value)
  | [], _ => return []
  | (.text t _, v) :: r, places => do
    return (Reader.normalName t, v.computed) :: (← namedArguments span r (places.drop 1))
  | _, places => fail "Variable keyword argument map must have string keys." (places.headD span)

/-- The places of the keys of a map that is written out. -/
def keyPlaces : Expr → List Span
  | .map es => es.map fun e => e.1.2
  | .paren e => keyPlaces e
  | _ => []

/-- More arguments by name; the later ones win. -/
def addNamed (named more : Index Value) : Index Value :=
  more.foldl (fun acc (n, v) => Index.alter n (fun _ => v) acc) named

/-- **The arguments of a call**, evaluated. -/
def arguments (ev : Evaluator) (a : Arguments) (span : Span) : Eval Given := do
  match a with
  | .of positional named rest keywordRest argumentsSpan =>
    let positional ← positional.mapM fun e => return (← ev e).computed
    let named ← named.mapM fun (n, e) => return (n, (← ev e).computed)
    match rest with
    | none => return { positional, named, span }
    | some rest =>
      let (positional, named, separator) ←
        match ← ev rest with
        | .map entries =>
          let more ← namedArguments argumentsSpan entries (keyPlaces rest)
          pure (positional, addNamed named more, Separator.undecided)
        | .list items s _ => pure (positional ++ items.map Value.computed, named, s)
        | .arguments items more s mark =>
          modify fun m => { m with touched := mark :: m.touched }
          pure (positional ++ items.map Value.computed, addNamed named more, s)
        | v => pure (positional ++ [v.computed], named, Separator.undecided)
      match keywordRest with
      | none => return { positional, named, span := argumentsSpan }
      | some e =>
        match ← ev e with
        | .map entries =>
          let more ← namedArguments argumentsSpan entries (keyPlaces e)
          return { positional, named := addNamed named more, separator, span := argumentsSpan }
        | v => fail ("Variable keyword arguments must be a map (was ".toList ++ v.inspect
            ++ ").".toList) argumentsSpan

/-- Gives the parameters that take one argument each their values. The names that were
not used are left. -/
def bindSingle (ev : Evaluator) :
    List Parameter → List Value → Index Value → Eval (Index Value)
  | [], _, named => return named
  | p :: r, v :: vs, named => do
    modify fun m => m.bind p.name v
    bindSingle ev r vs named
  | p :: r, [], named => do
    let v ←
      match Text.lookup? p.name named with
      | some v => pure v
      | none =>
        match p.fallback with
        | some e => pure (← ev e).computed
        | none => pure Value.null
    modify fun m => m.bind p.name v
    bindSingle ev r [] (named.filter fun n => n.1 != p.name)

/-- **An evaluation in which parameters have the arguments of a call**, with the names
around that were there where the parameters were written. What nobody has looked at is
told at the whole call. -/
def withArguments {α : Type} (ev : Evaluator) (p : Parameters) (env : Env) (g : Given)
    (span : Span) (r : Eval α) : Eval α :=
  withEnv env <| inOwnScope do
    p.check g
    let left ← bindSingle ev p.single g.positional g.named
    match p.rest with
    | none => r
    | some name =>
      let mark := (← get).nextMark
      let separator := if g.separator = .undecided then Separator.comma else .space
      let others := Value.arguments (g.positional.drop p.single.length) left separator mark
      modify fun m => { m with nextMark := mark + 1 }.bind name others
      let x ← r
      if left.isEmpty || List.elem mark (← get).touched then return x
      else fail (unknownNames (left.map (·.1))) span

/-! ## Functions that look at the names around -/

/-- Asks for something about the arguments of a call. -/
def ask {α : Type} (g : Given) (b : Builtin α) : Eval α := .mk (StateT.lift (b g).run)

open Sass.Builtin Machine

/-- A name among the arguments of a call. -/
def nameAsked (g : Given) (i : Nat) (name : Text) : Eval Text := do
  return Reader.normalName (← ask g (Builtin.text i name)).1

/-- The name of a member, and the module that was said to have it. -/
def memberAsked (g : Given) : Eval (Text × Option Named) := do
  ask g (atMost 2)
  let name ← nameAsked g 0 "name"
  match ← ask g (argOr 1 "module" .null) with
  | .null => return (name, none)
  | v =>
    let (space, _) ← ask g (asText "module" v)
    return (name, some ⟨Reader.normalName space, g.span⟩)

/-- The function of a name without a module. -/
def functionNamed? (name : Text) : Eval (Option Callable) := do
  match ← find? functions name none with
  | some f => return some f
  | none => return if Function.isThere [] name then some (.builtin [] name) else none

/-- A function as a value. -/
def functionValue (g : Given) : Eval Value := do
  ask g (atMost 3)
  let name ← nameAsked g 0 "name"
  let isCss := (← ask g (argOr 1 "css" (.truth false))).isTruthy
  let module ← ask g (argOr 2 "module" .null)
  let found ←
    match module with
    | .null => if isCss then pure (some (Callable.plain name)) else functionNamed? name
    | v => do
      let (space, _) ← ask g (asText "module" v)
      if isCss then fail "$css and $module may not both be passed at once." g.span
      else find? functions name (some ⟨Reader.normalName space, g.span⟩)
  match found with
  | some f => return .function f
  | none => fail ("Function not found: ".toList ++ name) g.span

/-- The members of a module, as a map. -/
def memberMap {α : Type} (k : Kind α) (builtins : Text → List Text) (value : α → Value)
    (g : Given) : Eval Value := do
  ask g (atMost 1)
  let name ← nameAsked g 0 "module"
  let id ← space ⟨name, g.span⟩
  let m ← get
  let entries := (m.memberNames k builtins id).filterMap fun n =>
    (m.member? k id n).map fun x => (Value.text n true, value x.value)
  return .map entries

/-- Calls a function that was given as a value or by its name. -/
def callGiven (call : Callable → Given → Eval Value) (g : Given) : Eval Value := do
  let f ←
    match ← ask g (arg 0 "function") with
    | .function f => pure f
    | .text t _ => do
      let name := Reader.normalName t
      pure ((← functionNamed? name).getD (.plain name))
    | v => fail ("$function: ".toList ++ v.inspect ++ " is not a function reference.".toList) g.span
  let g :=
    if g.positional.isEmpty then
      { g with named := g.named.filter fun n => n.1 != ("function" : Text) }
    else { g with positional := g.positional.drop 1 }
  call f g

/-- **The function of a name that looks at the names around the call.** -/
def look (call : Callable → Given → Eval Value) (name : Text) (g : Given) : Eval Value := do
  match name.toString with
  | "keywords" =>
    ask g (atMost 1)
    match ← ask g (arg 0 "args") with
    | .arguments _ named _ mark =>
      modify fun m => { m with touched := mark :: m.touched }
      return .map (named.map fun (n, v) => (Value.word n, v))
    | v => fail ("$args: ".toList ++ v.inspect ++ " is not an argument list.".toList) g.span
  | "variable-exists" =>
    ask g (atMost 1)
    let name ← nameAsked g 0 "name"
    return .truth (← find? vars name none).isSome
  | "global-variable-exists" =>
    match ← memberAsked g with
    | (name, none) =>
      let m ← get
      return .truth (Text.lookup? name (m.bindingsAt m.outermost).vars).isSome
    | (name, module) => return .truth (← find? vars name module).isSome
  | "function-exists" =>
    let (name, module) ← memberAsked g
    match module with
    | none => return .truth (← functionNamed? name).isSome
    | module => return .truth (← find? functions name module).isSome
  | "mixin-exists" =>
    let (name, module) ← memberAsked g
    return .truth (← find? mixins name module).isSome
  | "content-exists" =>
    ask g (atMost 0)
    let m ← get
    if m.flags.inMixin then return .truth m.env.content.isSome
    else fail "content-exists() may only be called within a mixin." g.span
  | "get-function" => functionValue g
  | "call" => callGiven call g
  | "module-variables" => memberMap vars (fun _ => []) id g
  | _ => memberMap functions Function.namesIn Value.function g

end Eval

end ModuleHooks.Sass
