import ModuleHooks.Sass.Evaluation.Expression
import ModuleHooks.Sass.Selector.Reading
/-!
# Rules and declarations

What a rule comes to goes into the tree of the output. A rule inside of a style rule goes
beside it; where it may not hold declarations itself, it gets a copy of the style rule
for them.
-/

namespace ModuleHooks.Sass

/-- **Which rules a block is taken out of.** -/
structure RootQuery where
  /-- The rules that are named are kept, and all others left. -/
  keeps : Bool := false
  /-- The names of the rules; the one of style rules is `rule`, and `all` names all of
  them. -/
  names : List Text := ["rule"]

namespace RootQuery

/-- Whether the block is taken out of rules of a name. -/
def excludes (q : RootQuery) (name : Text) : Bool :=
  (List.elem ("all" : Text) q.names || List.elem name q.names) != q.keeps

/-- Whether the block is taken out of a piece of the output. -/
def excludesPiece (q : RootQuery) : Piece → Bool
  | .rule _ => q.excludes "rule"
  | .media _ => q.excludes "media"
  | .supports _ => q.excludes "supports"
  | .unknown name _ _ => q.excludes (Text.lowerAscii name)
  | _ => List.elem ("all" : Text) q.names && !q.keeps

end RootQuery

namespace Reader

/-- The rules that a block is taken out of, without code. -/
def rootQuery : Reader RootQuery := do
  expect '('
  whitespace
  let keeps ← scanName "with"
  if !keeps then expectName "without"
  whitespace
  expect ':'
  whitespace
  let names ← iterate (fun (acc : List Text) => do
    let n ← name
    whitespace
    let acc := Text.lowerAscii n :: acc
    if ← atName then return .again acc else return .done acc) []
  expect ')'
  if ← isDone then return { keeps, names } else failHere "expected no more input."

end Reader

/-- Reads the rules that a block is taken out of. -/
def readRootQuery (t : Text) (span : Span) : Except Fault RootQuery :=
  (Reader.rootQuery (Feed.ofText t span) {}).map (·.1)

namespace Eval

section

variable (ev : Evaluator) (run : Runner)

/-- Evaluates the statements of a block. -/
def block (body : List Stmt) : Eval Unit := do
  let _ ← run body

/-- Nothing but declarations may stand inside of a declaration. -/
def outsideDeclaration (what : Text) (span : Span) : Eval Unit := do
  if (← get).declaration.isSome then
    fail (what ++ " may not be used within nested declarations.".toList) span

/-- A piece for a style rule, with the block in it. -/
def ruleBlock (p : Piece) (body : List Stmt) : Eval Unit :=
  inPiece p Piece.isRule (inOwnScope (block run body))

/-- **A style rule**, or a place of an animation. -/
def styleRule (selector : Template) (selectorSpan : Span) (body : List Stmt) (span : Span) :
    Eval Unit := do
  outsideDeclaration "Style rules" span
  let text := trimmed (← template ev selector)
  let m ← get
  if m.flags.inKeyframes then
    let places ← readKeyframes text selectorSpan
    ruleBlock run (.keyframe places) body
  else
    let s ← Selector.read text selectorSpan (!m.isPlainCss) (!m.isPlainCss)
    let s ← s.below selectorSpan (m.rule.map m.store.selector) (!m.flags.excludesRules)
    let (id, store) := m.store.add s
    modify fun m => { m with store }
    keeping (·.rule) (fun r m => { m with rule := r }) do
      modify fun m => { m with rule := some id }
      withFlags (fun f => { f with excludesRules := false }) (ruleBlock run (.rule id) body)
    modify fun m => if m.hasRule then m else { m with tree := m.tree.endGroup m.parent }

/-- **A declaration**, with others inside whose names begin with its own. -/
def style (name : Template) (value : Option Placed) (body : List Stmt) (span : Span) :
    Eval Unit := do
  let m ← get
  if !m.hasRule && !m.flags.inUnknown && !m.flags.inKeyframes then
    fail "Declarations may only be used within style rules." span
  let isCustom := Text.startsWith (Template.front name) "--"
  let own := trimmed (← template ev name)
  let full := (m.declaration.map fun d => d ++ '-' :: own).getD own
  match value with
  | none => pure ()
  | some (e, valueSpan) =>
    let v ← ev e
    if !v.isBlank || v.isEmptyList then emit (.style full v isCustom valueSpan)
    else if Text.startsWith full "--" then fail "Custom property values may not be empty." span
  if !body.isEmpty then
    keeping (·.declaration) (fun d m => { m with declaration := d }) do
      modify fun m => { m with declaration := some full }
      inOwnScope (block run body)

/-- A comment that comes out. -/
def comment (text : Template) (span : Span) : Eval Unit := do
  if !(← get).flags.inFunction then
    let (_, column) := lineAndColumn span.start span.source.text (0, 0)
    emit (.comment (← template ev text) column)

/-- **A media rule.** What two media rules say together is said by one, where that can be
said at all. -/
def media (query : Template) (querySpan : Span) (body : List Stmt) (span : Span) : Eval Unit := do
  outsideDeclaration "Media rules" span
  let queries ← readMediaQueries (← template ev query) querySpan
  let m ← get
  let merged := m.queries.bind fun outer => MediaQuery.mergeLists outer queries
  if merged != some [] then
    let sources := if merged.isSome then m.querySources ++ m.queries.getD [] ++ queries else []
    let own := merged.getD queries
    let isAround (p : Piece) : Bool :=
      match p with
      | .rule _ => true
      | .media qs => !sources.isEmpty && qs.all fun q => List.elem q sources
      | _ => false
    inPiece (.media own) isAround <| inOwnScope do
      keeping (fun m => (m.queries, m.querySources))
          (fun (queries, sources) m => { m with queries, querySources := sources }) do
        modify fun m => { m with queries := some own, querySources := sources }
        inRuleCopy (block run body)

/-- A rule for browsers that support something. -/
def supports (c : Condition) (body : List Stmt) (span : Span) : Eval Unit := do
  outsideDeclaration "Supports rules" span
  let text ← condition ev c
  inPiece (.supports text) Piece.isRule (inOwnScope (inRuleCopy (block run body)))

/-- **A rule whose name means nothing here.** -/
def unknown (name : Template) (value : Option Template) (body : Option (List Stmt)) (span : Span) :
    Eval Unit := do
  outsideDeclaration "At-rules" span
  let name ← template ev name
  let params ← value.mapM fun v => return trimmed (← template ev v)
  match body with
  | none => emit (.unknown name (params.getD []) false)
  | some body =>
    let isKeyframes := unvendored name == ("keyframes" : Text)
    let change (f : Flags) : Flags :=
      if isKeyframes then { f with inKeyframes := true } else { f with inUnknown := true }
    withFlags change <| inPiece (.unknown name (params.getD []) true) Piece.isRule <| inOwnScope do
      if (← get).flags.inKeyframes then block run body else inRuleCopy (block run body)

/-- The nodes from one up to the outermost, without the whole sheet. The first argument
bounds their number. -/
def ancestors (t : Tree) : Nat → Nat → List Nat
  | 0, _ => []
  | n + 1, i => if i = 0 then [] else i :: ancestors t n (t.node i).parent

/-- **A block that is taken out of rules around it.** Those that it stays in are copied,
unless it stays in all of them; the block goes into the copy of the outermost one, beside
those of the others. -/
def atRoot (query : Option (Template × Span)) (body : List Stmt) : Eval Unit := do
  let q : RootQuery ←
    match query with
    | none => pure {}
    | some (t, span) => do
      let text ← template ev t
      liftM (readRootQuery text span)
  let m ← get
  let around := ancestors m.tree m.tree.nodes.size m.parent
  let kept := around.filter fun i => !q.excludesPiece (m.tree.node i).piece
  if kept.length = around.length && !around.isEmpty then inOwnScope (block run body)
  else
    let (parent, tree) :=
      match kept.reverse with
      | [] => (0, m.tree)
      | outermost :: more =>
        let (parent, tree) := m.tree.add 0 (m.tree.node outermost).piece
        let copy := fun (x : Nat × Tree) i => x.2.add x.1 (m.tree.node i).piece
        (parent, (more.foldl copy (parent, tree)).2)
    keeping (fun m => (m.parent, m.queries, m.querySources))
        (fun (parent, queries, sources) m =>
          { m with parent, queries, querySources := sources }) do
      modify fun m => { m with tree, parent }
      if q.excludes "media" then modify fun m => { m with queries := none, querySources := [] }
      let change (f : Flags) : Flags :=
        { f with
          excludesRules := f.excludesRules || q.excludes "rule"
          inKeyframes := f.inKeyframes && !q.excludes "keyframes" }
      withFlags change (inOwnScope (block run body))

/-- **An extension**: whatever matches the rule around is matched by a selector as
well. -/
def extend (selector : Template) (span : Span) : Eval Unit := do
  let m ← get
  match m.rule with
  | none => fail "@extend may only be used within style rules." span
  | some id =>
    if !m.hasRule || m.declaration.isSome then
      fail "@extend may only be used within style rules." span
    let text := trimmed (← template ev selector)
    let targets ← Selector.read text span false true
    for c in targets do
      match c.limbs with
      | [.compound [target]] =>
        modify fun m => { m with store := m.store.addExtension (m.store.selector id) target }
      | [.compound ss] =>
        fail ("compound selectors may no longer be extended.\nConsider ".toList ++ [tick]
          ++ "@extend ".toList ++ Text.join ", " (ss.map Simple.key) ++ [tick]
          ++ " instead.\nSee http://bit.ly/ExtendCompound for details.\n".toList) span
      | _ => fail "complex selectors may not be extended." span
where
  /-- The mark around code in a message. -/
  tick : Char := Char.ofNat 96

end

end Eval

end ModuleHooks.Sass
