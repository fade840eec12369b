import ModuleHooks.FileSystem.Basic
import ModuleHooks.Sass.Function.Table
import ModuleHooks.Sass.Output
/-!
# The state of an evaluation

While a style sheet is evaluated, names get values in scopes, modules are loaded, and
what comes out grows. Scopes and modules are never thrown away: a function remembers the
scopes that were around it. An evaluation that enters something remembers what was before
and puts it back when it leaves.
-/

namespace ModuleHooks.Sass

/-- A mixin. -/
inductive Mixin where
  /-- A mixin that is always there. -/
  | builtin (name : Text)
  /-- A mixin of a style sheet. -/
  | user (parameters : Parameters) (takesContent : Bool) (body : List Stmt) (env : Env)

/-- **What the names of one scope stand for.** -/
structure Bindings where
  /-- The variables. -/
  vars : Index Value := []
  /-- The functions. -/
  functions : Index Callable := []
  /-- The mixins. -/
  mixins : Index Mixin := []
  /-- The modules that an import brought into the scope. -/
  modules : List Nat := []
  deriving Inhabited

/-- The modules of a style sheet. -/
structure ModuleTable where
  /-- Those with a name. -/
  spaces : Index Nat := []
  /-- Those whose members need no name before them. -/
  globals : List Nat := []
  /-- Those whose members are passed on. -/
  forwarded : List Nat := []
  deriving Inhabited

/-- A block that a mixin is called with. -/
structure ContentBlock where
  /-- The parameters. -/
  parameters : Parameters
  /-- The statements. -/
  body : List Stmt
  /-- The names around the block. -/
  env : Env

/-- **A module.** -/
inductive Module where
  /-- A module that is always there. -/
  | builtin (name : Text)
  /-- A style sheet, with the number of its outermost scope and the one of its modules. -/
  | file (bindings table : Nat)
  /-- The members of another module, with a text before their names. -/
  | forwarded (inner : Nat) (front : Text)

/-- **What a module is told** about its variables. -/
structure Configuration where
  /-- The values, with the places where they were given. -/
  values : Index (Value × Span) := []
  /-- The place where they were given. Nothing here means that nobody gave them, and that
  nobody minds if they are not used. -/
  span : Option Span := none
  deriving Inhabited

/-- **A remark**: what a style sheet has to say to those who work on it. -/
structure Remark where
  /-- It is a warning. -/
  isWarning : Bool
  /-- What is said. -/
  message : Text
  /-- The place of what is said. -/
  span : Span

/-- A remark as it is shown, with the place where it begins. -/
def Remark.report (r : Remark) : Text :=
  let (line, column) := lineAndColumn r.span.start r.span.source.text (0, 0)
  let line := Text.ofNat (line + 1)
  let path := r.span.source.path
  if r.isWarning then
    ("Warning: " : Text) ++ r.message ++ "\n    ./".toList ++ path ++ ':' :: line
      ++ ':' :: Text.ofNat (column + 1)
  else path ++ ':' :: line ++ " DEBUG: ".toList ++ r.message

/-- What an evaluation is inside of. -/
structure Flags where
  /-- A mixin. -/
  inMixin : Bool := false
  /-- A function. -/
  inFunction : Bool := false
  /-- An animation. -/
  inKeyframes : Bool := false
  /-- A rule whose name means nothing. -/
  inUnknown : Bool := false
  /-- A block that is taken out of the style rules around it. -/
  excludesRules : Bool := false
  /-- Only the whole sheet, with conditions and loops. -/
  isSemiGlobal : Bool := true
  /-- A declaration that a browser has to support. -/
  inSupports : Bool := false

/-- **The state of an evaluation.** -/
structure Machine where
  /-- The files. -/
  fs : FileSystem
  /-- The source that the evaluation began with. -/
  main : Source
  /-- All scopes. -/
  bindings : Array Bindings := #[{}]
  /-- The modules of all style sheets. -/
  tables : Array ModuleTable := #[{}]
  /-- All blocks that mixins were called with. -/
  contents : Array ContentBlock := #[]
  /-- All modules. -/
  modules : Array Module := #[]
  /-- The modules of files that have been loaded. -/
  loaded : Index Nat := []
  /-- The files that are being evaluated. -/
  active : List Path := []
  /-- The names that can be used. -/
  env : Env := { scopes := [0], table := 0 }
  /-- What has come out. -/
  tree : Tree := {}
  /-- The node that what comes out goes into. -/
  parent : Nat := 0
  /-- The selectors of all rules. -/
  store : ExtensionStore := {}
  /-- The imports for the browser, the last one first. -/
  imports : List Piece := []
  /-- The style rule around. -/
  rule : Option Nat := none
  /-- The media queries around. -/
  queries : Option (List MediaQuery) := none
  /-- The media queries that those around were merged from. -/
  querySources : List MediaQuery := []
  /-- The property whose declaration is around. -/
  declaration : Option Text := none
  /-- What the evaluation is inside of. -/
  flags : Flags := {}
  /-- The file that is evaluated. -/
  path : Path
  /-- The file has no code. -/
  isPlainCss : Bool := false
  /-- What the module was told. -/
  configuration : Configuration := {}
  /-- The next number for a list of arguments. -/
  nextMark : Nat := 0
  /-- The lists of arguments whose names somebody has looked at. -/
  touched : List Nat := []
  /-- The remarks, the last one first. -/
  remarks : List Remark := []
  /-- The places of the warnings, each of which is given once. -/
  warned : List (Path × Nat) := []

/-- **A step of an evaluation.** What was done before a fault stays done. -/
abbrev Eval := ExceptT Fault (StateT Machine Lot)

namespace Eval

/-- Something is wrong at a place. -/
def fail {α : Type} (message : Text) (span : Span) : Eval α := throw (.misplaced message span)

/-- Makes a remark. -/
def remark (isWarning : Bool) (message : Text) (span : Span) : Eval Unit :=
  modify fun m => { m with remarks := ⟨isWarning, message, span⟩ :: m.remarks }

/-- A part of the state is put back after an evaluation. -/
def keeping {α κ : Type} (part : Machine → κ) (restore : κ → Machine → Machine) (r : Eval α) :
    Eval α := do
  let k := part (← get)
  let x ← r
  modify (restore k)
  return x

/-- An evaluation inside of something else. -/
def withFlags {α : Type} (change : Flags → Flags) (r : Eval α) : Eval α :=
  keeping (·.flags) (fun f m => { m with flags := f }) do
    modify fun m => { m with flags := change m.flags }
    r

/-- An evaluation with other names around. -/
def withEnv {α : Type} (env : Env) (r : Eval α) : Eval α :=
  keeping (·.env) (fun e m => { m with env := e }) do
    modify fun m => { m with env := env }
    r

/-- **An evaluation in a new scope.** -/
def inScope {α : Type} (r : Eval α) : Eval α :=
  keeping (·.env) (fun e m => { m with env := e }) do
    modify fun m => { m with
      env := { m.env with scopes := m.bindings.size :: m.env.scopes }
      bindings := m.bindings.push {} }
    r

/-- An evaluation in a new scope that does not belong to the whole sheet any more. -/
def inOwnScope {α : Type} (r : Eval α) : Eval α :=
  withFlags (fun f => { f with isSemiGlobal := false }) (inScope r)

end Eval

namespace Machine

/-- The names of a scope. -/
def bindingsAt (m : Machine) (i : Nat) : Bindings := m.bindings[i]?.getD default

/-- The modules of a style sheet. -/
def tableAt (m : Machine) (i : Nat) : ModuleTable := m.tables[i]?.getD default

/-- The modules of the style sheet that is evaluated. -/
def table (m : Machine) : ModuleTable := m.tableAt m.env.table

/-- The innermost scope. -/
def innermost (m : Machine) : Nat := m.env.scopes.headD 0

/-- The outermost scope. -/
def outermost (m : Machine) : Nat := m.env.scopes.getLastD 0

/-- Whether no scope is inside of the outermost one. -/
def atRoot (m : Machine) : Bool := m.env.scopes.length ≤ 1

/-- The names of a scope changed. -/
def changeBindings (m : Machine) (i : Nat) (f : Bindings → Bindings) : Machine :=
  { m with bindings := m.bindings.modify i f }

/-- The modules of the style sheet changed. -/
def changeTable (m : Machine) (f : ModuleTable → ModuleTable) : Machine :=
  { m with tables := m.tables.modify m.env.table f }

/-! ## Members -/

/-- A kind of members: where a scope keeps them, and which of them the modules have that
are always there. -/
structure Kind (α : Type) where
  /-- The members of a scope. -/
  own : Bindings → Index α
  /-- The member of a module that is always there. -/
  builtin : Text → Text → Option α

/-- A member that was found. -/
structure Member (α : Type) where
  /-- What its name stands for. -/
  value : α
  /-- The scope that it is kept in, and its name there. -/
  place : Option (Nat × Text)

/-- Variables. -/
def vars : Kind Value := ⟨Bindings.vars, Function.constant?⟩

/-- Functions. -/
def functions : Kind Callable :=
  ⟨Bindings.functions,
    fun module name => if Function.isThere module name then some (.builtin module name) else none⟩

/-- Mixins. -/
def mixins : Kind Mixin :=
  ⟨Bindings.mixins,
    fun module name =>
      if module = ("meta" : Text) && name == ("load-css" : Text) then some (.builtin name) else none⟩

variable {α : Type}

/-- A member of a module, which may have it from others. The first argument bounds how
often a member is passed on. -/
def memberWithin (m : Machine) (k : Kind α) : Nat → Nat → Text → Option (Member α)
  | 0, _, _ => none
  | n + 1, id, name =>
    match m.modules[id]? with
    | none => none
    | some (.builtin module) => (k.builtin module name).map fun v => ⟨v, none⟩
    | some (.forwarded inner front) =>
      (Text.stripStart? front name).bind (memberWithin m k n inner)
    | some (.file own table) =>
      if name.head? == some '-' then none
      else
        match Text.lookup? name (k.own (m.bindingsAt own)) with
        | some v => some ⟨v, some (own, name)⟩
        | none =>
          (m.tableAt table).forwarded.reverse.findSome? fun id => memberWithin m k n id name

/-- **A member of a module.** -/
def member? (m : Machine) (k : Kind α) (id : Nat) (name : Text) : Option (Member α) :=
  m.memberWithin k (m.modules.size + 1) id name

/-- The names of the members of a module. The first argument bounds how often they are
passed on. -/
def memberNamesWithin (m : Machine) (k : Kind α) (builtins : Text → List Text) :
    Nat → Nat → List Text
  | 0, _ => []
  | n + 1, id =>
    match m.modules[id]? with
    | none => []
    | some (.builtin module) => builtins module
    | some (.forwarded inner front) =>
      (memberNamesWithin m k builtins n inner).map (front ++ ·)
    | some (.file own table) =>
      ((m.tableAt table).forwarded.flatMap (memberNamesWithin m k builtins n))
        ++ ((k.own (m.bindingsAt own)).map (·.1)).filter fun name => name.head? != some '-'

/-- The names of the members of a module. -/
def memberNames (m : Machine) (k : Kind α) (builtins : Text → List Text) (id : Nat) : List Text :=
  m.memberNamesWithin k builtins (m.modules.size + 1) id

/-- A member that needs no name of a module, though it is one's. -/
def imported? (m : Machine) (k : Kind α) (name : Text) : Option (Member α) :=
  (m.env.scopes.findSome? fun i =>
    (m.bindingsAt i).modules.findSome? fun id => m.member? k id name).or
    (m.table.globals.reverse.findSome? fun id => m.member? k id name)

/-- The member of a name in the scopes. -/
def own? (m : Machine) (k : Kind α) (name : Text) : Option α :=
  m.env.scopes.findSome? fun i => Text.lookup? name (k.own (m.bindingsAt i))

/-- **What a name stands for** that has no module before it. -/
def named? (m : Machine) (k : Kind α) (name : Text) : Option α :=
  (m.own? k name).or ((m.imported? k name).map Member.value)

/-- The scope that a variable is kept in, if it is one of those around. -/
def scopeOf? (m : Machine) (name : Text) : Option Nat :=
  m.env.scopes.find? fun i => (Text.lookup? name (m.bindingsAt i).vars).isSome

/-- Gives a variable of a scope a value. -/
def assignIn (m : Machine) (i : Nat) (name : Text) (v : Value) : Machine :=
  m.changeBindings i fun b => { b with vars := Index.alter name (fun _ => v) b.vars }

/-- Names members that are new in the innermost scope. -/
def bind (m : Machine) (name : Text) (v : Value) : Machine := m.assignIn m.innermost name v

/-- Names a function. -/
def bindFunction (m : Machine) (name : Text) (f : Callable) : Machine :=
  m.changeBindings m.innermost fun b =>
    { b with functions := Index.alter name (fun _ => f) b.functions }

/-- Names a mixin. -/
def bindMixin (m : Machine) (name : Text) (x : Mixin) : Machine :=
  m.changeBindings m.innermost fun b =>
    { b with mixins := Index.alter name (fun _ => x) b.mixins }

/-- The scope that a variable without the name of a module is assigned in: the one of the
whole sheet if it is said so or if nothing else is around, else the innermost one that has
the variable. A variable of the whole sheet is not reached from inside of a rule. -/
def assignmentScope (m : Machine) (name : Text) (isGlobal : Bool) : Nat :=
  if isGlobal || m.atRoot then m.outermost
  else
    match m.scopeOf? name with
    | some i => if i = m.outermost && !m.flags.isSemiGlobal then m.innermost else i
    | none => m.innermost

/-- **A style rule is around**, and the block is not taken out of it. -/
def hasRule (m : Machine) : Bool := !m.flags.excludesRules && m.rule.isSome

end Machine

namespace Eval

open Machine

/-- The module of a name. -/
def space (name : Named) : Eval Nat := do
  match Text.lookup? name.name (← get).table.spaces with
  | some id => return id
  | none =>
    fail ("There is no module with the namespace \"".toList ++ name.name ++ "\".".toList) name.span

/-- **What a name stands for**, in a module or in none. -/
def find? {α : Type} (k : Kind α) (name : Text) (module : Option Named) : Eval (Option α) := do
  match module with
  | some s =>
    let id ← space s
    return ((← get).member? k id name).map Member.value
  | none => return (← get).named? k name

/-- The value of a variable. -/
def valueOf (name : Named) (module : Option Named) : Eval Value := do
  match ← find? vars name.name module with
  | some v => return v
  | none => fail "Undefined variable." name.span

/-- Gives a variable of a module a value. -/
def assignMember (id : Nat) (name : Named) (v : Value) : Eval Unit := do
  match (← get).member? vars id name.name with
  | some ⟨_, some (i, inner)⟩ => modify fun m => m.assignIn i inner v
  | some ⟨_, none⟩ => fail "Cannot modify built-in variable." name.span
  | none => fail "Undefined variable." name.span

/-- **Gives a variable a value.** -/
def assign (name : Named) (module : Option Named) (v : Value) (isGlobal : Bool) : Eval Unit := do
  match module with
  | some s => assignMember (← space s) name v
  | none =>
    let m ← get
    let hasOwn := (Text.lookup? name.name (m.bindingsAt m.outermost).vars).isSome
    let elsewhere :=
      if (isGlobal || m.atRoot) && !hasOwn then m.imported? vars name.name else none
    match elsewhere with
    | some ⟨_, some (i, inner)⟩ => modify fun m => m.assignIn i inner v
    | some ⟨_, none⟩ => fail "Cannot modify built-in variable." name.span
    | none => modify fun m => m.assignIn (m.assignmentScope name.name isGlobal) name.name v

/-- **An evaluation whose output goes into a new piece**, which is put beyond the pieces
for which a test holds. -/
def inPiece {α : Type} (p : Piece) (test : Piece → Bool) (r : Eval α) : Eval α := do
  let m ← get
  let old := m.parent
  let (i, tree) := m.tree.addThrough old p test
  set { m with tree := tree, parent := i }
  let x ← withFlags (fun f => { f with isSemiGlobal := false }) r
  modify fun m => { m with parent := old }
  return x

/-- Puts a piece at the end of what has come out. -/
def emit (p : Piece) : Eval Unit :=
  modify fun m => { m with tree := (m.tree.add m.parent p).2 }

/-- An evaluation inside of the style rule that is around, copied into another rule. -/
def inRuleCopy {α : Type} (r : Eval α) : Eval α := do
  let m ← get
  match m.rule with
  | some s => if m.hasRule then inPiece (.rule s) (fun _ => false) r else r
  | none => r

end Eval

end ModuleHooks.Sass
