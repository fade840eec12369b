import ModuleHooks.Sass.Evaluation.Module
import ModuleHooks.Sass.Evaluation.Rule
/-!
# Statements

A statement changes what names stand for or what comes out. Inside of a function it may
also give a value, and then nothing after it is evaluated. Expressions and statements are
evaluated by each other, up to a depth that no style sheet needs. A loop may go on for ever;
its evaluation breaks off after as many turns as no style sheet waits for. What goes beyond
either of the two bounds is a fault of its own and gives no CSS.
-/

namespace ModuleHooks.Sass.Eval

/-- The evaluation goes too deep. -/
def tooDeep {α : Type} : Eval α := do fail "Too deeply nested." (Span.front (← get).main)

/-- The evaluation of a loop takes too many turns. -/
def tooLong {α : Type} : Eval α := do fail "Too many turns." (Span.front (← get).main)

section

variable (ev : Evaluator) (run : Runner)

/-! ## Names -/

/-- **A value for a variable.** A value that is given by default is given only if there is
none; what the module was told goes before it. -/
def assignment (a : Assignment) : Eval Unit := do
  let name : Named := ⟨a.name.name, a.span⟩
  let m ← get
  let told :=
    if a.isGuarded && a.space.isNone && m.atRoot then
      Text.lookup? name.name m.configuration.values
    else none
  if told.isSome then
    modify fun m => { m with configuration := m.configuration.without [name.name] }
  let isGiven ←
    match told with
    | some (.null, _) => pure false
    | some (v, _) => do
      assign name none v true
      pure true
    | none => pure false
  if !isGiven then
    let old ← if a.isGuarded then find? Machine.vars name.name a.space else pure none
    match old with
    | some .null => assignGiven name
    | some _ => pure ()
    | none => assignGiven name
where
  /-- Evaluates the value and gives it to the variable. -/
  assignGiven (name : Named) : Eval Unit := do
    let v := (← ev a.value.1).computed
    assign name a.space v a.isGlobal

/-! ## Mixins -/

/-- The style sheet that a mixin puts in its place. -/
def loadCss (g : Given) : Eval Unit := do
  ask g (Builtin.atMost 2)
  let (url, _) ← ask g (Builtin.text 0 "module")
  match ← ask g (Builtin.argOr 1 "with" .null) with
  | .null => pure ()
  | v =>
    match v.entries? with
    | none => fail ("$with: ".toList ++ v.inspect ++ " is not a map.".toList) g.span
    | some entries =>
      entries.forM fun (k, _) =>
        match k with
        | .text .. => pure ()
        | k => fail ("$with key: ".toList ++ k.inspect ++ " is not a string.".toList) g.span
  visit run (← readSheet url g.span)

/-- **The use of a mixin**, maybe with a block. -/
def mixinCall (name : Named) (module : Option Named) (args : Arguments)
    (content : Option (Parameters × List Stmt)) : Eval Unit := do
  match ← find? Machine.mixins name.name module with
  | none => fail "Undefined mixin." name.span
  | some (.builtin _) =>
    if content.isSome then fail "Mixin doesn't accept a content block." name.span
    loadCss run (← arguments ev args name.span)
  | some (.user parameters takesContent body env) =>
    if content.isSome && !takesContent then fail "Mixin doesn't accept a content block." name.span
    let m ← get
    let id := content.map fun _ => m.contents.size
    match content with
    | some (p, b) => set { m with contents := m.contents.push ⟨p, b, m.env⟩ }
    | none => pure ()
    withFlags (fun f => { f with inMixin := true }) do
      let g ← arguments ev args name.span
      withArguments ev parameters env g name.span do
        keeping (·.env.content) (fun c m => { m with env := { m.env with content := c } }) do
          modify fun m => { m with env := { m.env with content := id } }
          block run body

/-- The block that the mixin was called with. -/
def content (args : Arguments) : Eval Unit := do
  let m ← get
  match m.env.content.bind fun i => m.contents[i]? with
  | none => pure ()
  | some c =>
    match args with
    | .of _ _ _ _ span =>
      let g ← arguments ev args span
      withArguments ev c.parameters c.env g span (block run c.body)

/-! ## Conditions and loops -/

/-- The statements of the first clause whose condition holds. -/
def chooseClause (fallback : List Stmt) : List (Expr × List Stmt) → Eval (List Stmt)
  | [] => return fallback
  | (c, body) :: r => do if (← ev c).isTruthy then return body else chooseClause fallback r

/-- A body for each of some values, up to the first that gives a value. -/
def forEach {α : Type} (bind : α → Eval Unit) (body : List Stmt) : List α → Eval (Option Value)
  | [] => return none
  | x :: r => do
    bind x
    match ← run body with
    | some v => return some v
    | none => forEach bind body r

/-- Gives variables the items of a value; those that are left over are nothing. -/
def spread : List Text → List Value → Eval Unit
  | [], _ => return ()
  | n :: ns, vs => do
    modify fun m => m.bind n (vs.headD .null).computed
    spread ns (vs.drop 1)

/-- A body for each item of a list. -/
def each (names : List Text) (list : Expr) (body : List Stmt) : Eval (Option Value) := do
  let items := (← ev list).items
  let bind (v : Value) : Eval Unit :=
    match names with
    | [n] => modify fun m => m.bind n v.computed
    | ns => spread ns v.items
  inScope (forEach run bind body items)

/-- The end of a count, which has to be a whole number. -/
def countEnd (e : Placed) : Eval Number := do
  match ← ev e.1 with
  | .number n => return n
  | v => fail (v.inspect ++ " is not a number.".toList) e.2

/-- The whole number that the value of a number is. -/
def wholeNumber (x : Binary) (span : Span) : Eval Int := do
  match nearlyInt? x with
  | some i => return i
  | none => fail (notWhole x) span

/-- **A count** from a number up or down to another one. -/
def count (counter : Text) (first last : Placed) (isExclusive : Bool) (body : List Stmt) :
    Eval (Option Value) := do
  let low ← countEnd ev first
  let high ← countEnd ev last
  if !Units.comparable high.units low.units then
    fail "to and from values have incompatible units" (first.2.join last.2)
  let start ← wholeNumber low.value first.2
  let stop ← wholeNumber (high.valueIn low.units) last.2
  let length := (stop - start).natAbs + if isExclusive then 0 else 1
  let turn (i : Nat) : Int := if start > stop then start - i else start + i
  let bind (i : Nat) : Eval Unit :=
    modify fun m => m.bind counter (.number (.plain (whole (turn i)) low.units))
  if length = 0 then return none
  else inScope (forEach run bind body (List.range length))

/-- **A body as long as a condition holds.** The first argument bounds how often. -/
def loopWithin (condition : Expr) (body : List Stmt) : Nat → Eval (Option Value)
  | 0 => tooLong
  | n + 1 => do
    if (← ev condition).isTruthy then
      match ← run body with
      | some v => return some v
      | none => loopWithin condition body n
    else return none

/-- The turns of a loop that no style sheet waits for. -/
def loopLimit : Nat := 1000000

/-! ## Statements -/

/-- An import. -/
def oneImport (i : Import) : Eval Unit := do
  match i with
  | .file url span => importSheet run url span
  | .css url modifiers _ => importCss ev url modifiers

/-- **One step of the evaluation of a statement.** -/
def stmtStep (s : Stmt) : Eval (Option Value) := do
  let done (r : Eval Unit) : Eval (Option Value) := do
    r
    return none
  match s with
  | .assign a => done (assignment ev a)
  | .style name value body span => done (style ev run name value body span)
  | .rule selector selectorSpan body span => done (styleRule ev run selector selectorSpan body span)
  | .media query querySpan body span => done (media ev run query querySpan body span)
  | .supports c body span => done (supports ev run c body span)
  | .atRoot query body _ => done (atRoot ev run query body)
  | .unknown name value body span => done (unknown ev run name value body span)
  | .comment text span => done (comment ev text span)
  | .silent => return none
  | .choose clauses fallback =>
    let body ← chooseClause ev fallback clauses
    inScope (run body)
  | .count counter first last isExclusive body => count ev run counter first last isExclusive body
  | .each names list body => each ev run names list body
  | .loop condition body => inScope (loopWithin ev run condition body loopLimit)
  | .give value _ => return some (← ev value).computed
  | .fail value span => fail (← ev value).inspect span
  | .remark value true span =>
    let place := (span.source.path, span.start)
    if List.elem place (← get).warned then return none
    else
      modify fun m => { m with warned := place :: m.warned }
      remark true (← (← ev value).css span) span
      return none
  | .remark value false span =>
    remark false (← ev value).inspect span
    return none
  | .function name parameters body =>
    modify fun m => m.bindFunction name (.user name parameters body m.env)
    return none
  | .mixin name parameters hasContent body =>
    modify fun m => m.bindMixin name (.user parameters hasContent body m.env)
    return none
  | .mixinCall name module args content _ => done (mixinCall ev run name module args content)
  | .content args => done (content ev run args)
  | .extend selector _ span => done (extend ev selector span)
  | .imports items => done (items.forM (oneImport ev run))
  | .use url name settings span => done (use ev run url name settings span)
  | .forward url front shown settings span => done (forward ev run url front shown settings span)

/-- Statements, one after the other, up to the first that gives a value. -/
def sequence (step : Stmt → Eval (Option Value)) : List Stmt → Eval (Option Value)
  | [] => return none
  | s :: r => do
    match ← step s with
    | some v => return some v
    | none => sequence step r

end

mutual

/-- **The value of an expression.** The first argument bounds the depth. -/
def expr : Nat → Expr → Eval Value
  | 0, _ => tooDeep
  | n + 1, e => exprStep (expr n) (statements n) e

/-- **The evaluation of statements.** The first argument bounds the depth. -/
def statements : Nat → List Stmt → Eval (Option Value)
  | 0, _ => tooDeep
  | n + 1, body => sequence (stmtStep (expr n) (statements n)) body

end

/-- The depth that no style sheet needs. -/
def depthLimit : Nat := 100000

/-- **The evaluation of a whole style sheet.** -/
def wholeSheet (s : Sheet) : Eval Unit := visit (statements depthLimit) s

end ModuleHooks.Sass.Eval
