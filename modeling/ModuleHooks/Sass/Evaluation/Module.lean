import ModuleHooks.Sass.Evaluation.Expression
import ModuleHooks.Sass.Statement
/-!
# Modules and imports

A module is evaluated once, with names of its own; whoever uses it sees the members that
it makes public, under a name or without one. An import is evaluated wherever it stands
and sees the names around it.

A module may be told the values of variables that it gives itself only by default. A
value that no module was waiting for is refused, unless it comes from an import.

A style sheet names another one by a path, which may leave out the extension, the
underscore before the name of a part, and the name of the sheet that stands for a
directory.
-/

namespace ModuleHooks.Sass.Locate

/-- The name of a part: the path with an underscore before the name of the file. -/
def partial? (p : Path) : Path :=
  Path.join ((Path.parent? p).getD []) ('_' :: (Path.fileName? p).getD ['.', '.'])

/-- The file at a path, or the part. -/
def atPath? (fs : FileSystem) (p : Path) : Option Path :=
  if fs.isFile p then some p
  else if fs.isFile (partial? p) then some (partial? p)
  else none

/-- The extensions in the order in which they are tried. Files that are meant for imports
only come first. -/
def extensions : List Text :=
  List.map String.toList ["import.sass", "import.scss", "import.css", "sass", "scss", "css"]

/-- The file at a path to which an extension is given. -/
def withExtension? (fs : FileSystem) (p : Path) : Option Path :=
  extensions.findSome? fun e => atPath? fs (Path.withExtension p e)

/-- **The style sheet that a path leads to**, seen from another style sheet. -/
def sheet? (fs : FileSystem) (origin : Path) (url : Text) : Option Path :=
  let p := Path.join ((Path.parent? origin).getD []) url
  let e := (Path.extension? p).getD []
  if List.elem e (List.map String.toList ["scss", "sass", "css"]) then atPath? fs p
  else
    (withExtension? fs p).or
      (if fs.isDirectory p then withExtension? fs (Path.join p "index") else none)

/-- A path without links, if something is there. -/
def canonical (fs : FileSystem) (p : Path) : Path :=
  match fs.locate p with
  | .ok place => '/' :: Text.join ['/'] place
  | .error _ => p

end ModuleHooks.Sass.Locate

namespace ModuleHooks.Sass

/-- The source of a file. -/
def Source.ofFile (fs : FileSystem) (p : Path) : Except Fault Source :=
  match fs.readText p with
  | .ok t => .ok ⟨p, t⟩
  | .error .malformedText => .error .notText
  | .error why => .error (.unreadable why)

/-- Whether a module may be told a variable through another one. -/
def Shown.allows (name : Text) : Shown → Bool
  | .all => true
  | .only vars _ => List.elem name vars
  | .allBut vars _ => !List.elem name vars

namespace Configuration

/-- A configuration without some values. -/
def without (c : Configuration) (names : List Text) : Configuration :=
  { c with values := c.values.filter fun v => !List.elem v.1 names }

/-- The names of the values. -/
def names (c : Configuration) : List Text := c.values.map (·.1)

/-- **What a module is told through another one** that passes on its members, with a text
before their names. Only the variables that are shown can be told. -/
def through (c : Configuration) (front : Text) (shown : Shown) : Configuration :=
  if c.values.isEmpty then {}
  else
    { c with
      values := c.values.filterMap fun (name, v) =>
        ((Text.stripStart? front name).filter fun n => shown.allows n).map fun n => (n, v) }

end Configuration

/-- The statements at the front of a sheet that may name modules. -/
def Sheet.namesModules (s : Sheet) : Bool × Bool :=
  let front := s.body.takeWhile fun st =>
    match st with
    | .assign _ => true
    | .comment .. => true
    | .silent => true
    | .use .. => true
    | .forward .. => true
    | _ => false
  let isUse (st : Stmt) : Bool :=
    match st with
    | .use .. => true
    | _ => false
  let isForward (st : Stmt) : Bool :=
    match st with
    | .forward .. => true
    | _ => false
  (front.any isUse, front.any isForward)

namespace Eval

section

variable (ev : Evaluator) (run : Runner)

/-- The style sheet of an address. -/
def readSheet (url : Text) (span : Span) : Eval Sheet := do
  let m ← get
  match Locate.sheet? m.fs m.path url with
  | none => fail "Can't find stylesheet to import." span
  | some p => do
    let source ← Source.ofFile m.fs (Locate.canonical m.fs p)
    Sheet.read source

/-- **Evaluates a style sheet** with the names that are around. -/
def visit (s : Sheet) : Eval Unit :=
  keeping (fun m => (m.path, m.isPlainCss, m.active))
      (fun (p, c, a) m => { m with path := p, isPlainCss := c, active := a }) do
    modify fun m =>
      { m with path := s.path, isPlainCss := s.dialect == .plain, active := s.path :: m.active }
    let _ ← run s.body

/-- **Evaluates a style sheet as a module**, unless that was done before. It sees nothing
of what is around. What it was told and did not ask for is left. -/
def evaluateModule (s : Sheet) (c : Configuration) : Eval (Nat × Configuration) := do
  match Text.lookup? s.path (← get).loaded, c.span with
  | some _, some span =>
    fail "This module was already loaded, so it can't be configured using \"with\"." span
  | some id, none => return (id, c)
  | none, _ => do
    let own := (← get).bindings.size
    let table := (← get).tables.size
    let left ← keeping
        (fun m => (m.env, m.parent, m.store, m.rule, m.queries, m.declaration, m.flags,
          m.configuration))
        (fun (env, parent, store, rule, queries, declaration, flags, configuration) m =>
          { m with
            env, parent, rule, queries, declaration, flags, configuration
            store := { store with selectors := m.store.selectors } }) do
      modify fun m => { m with
        bindings := m.bindings.push {}
        tables := m.tables.push {}
        env := { scopes := [own], table }
        parent := 0
        store := { selectors := m.store.selectors }
        rule := none
        queries := none
        declaration := none
        flags := { m.flags with inUnknown := false, excludesRules := false, inKeyframes := false }
        configuration := c }
      visit run s
      return (← get).configuration
    let id := (← get).modules.size
    modify fun m => { m with
      modules := m.modules.push (.file own table)
      loaded := (s.path, id) :: m.loaded }
    return (id, left)

/-- **Loads a module**, with what is left of what it was told. -/
def loadModule (url : Text) (c : Configuration) (span : Span) : Eval (Nat × Configuration) := do
  let builtin := (Text.stripStart? "sass:" url).filter fun n => List.elem n Function.moduleNames
  match builtin, c.span with
  | some _, some span => fail "Built-in modules can't be configured." span
  | some name, none =>
    let id := (← get).modules.size
    modify fun m => { m with modules := m.modules.push (.builtin name) }
    return (id, c)
  | none, _ =>
    let s ← readSheet url span
    if List.elem s.path (← get).active then
      fail "Module loop: this module is already being loaded." span
    else evaluateModule run s c

/-- Refuses values that no module was waiting for. -/
def checkUsed (c : Configuration) : Eval Unit := do
  match c.values, c.span with
  | (_, _, span) :: _, some _ =>
    fail "This variable was not declared with !default in the @used module." span
  | _, _ => return ()

/-- Gives a module a name, or makes its members known without one. -/
def addModule (name : Option Text) (id : Nat) (span : Span) : Eval Unit := do
  let m ← get
  match name with
  | some n =>
    if (Text.lookup? n m.table.spaces).isSome then
      fail ("There's already a module with namespace \"".toList ++ n ++ "\".".toList) span
    else modify fun m => m.changeTable fun t => { t with spaces := (n, id) :: t.spaces }
  | none =>
    let own := (m.bindingsAt m.outermost).vars
    match own.find? fun v => (m.member? Machine.vars id v.1).isSome with
    | some (n, _) =>
      fail ("This module and the new module both define a variable named \"$".toList ++ n
        ++ "\".".toList) span
    | none => modify fun m => m.changeTable fun t => { t with globals := t.globals ++ [id] }

/-- **The use of a module.** -/
def use (url : Text) (name : Option Text) (settings : List Setting) (span : Span) : Eval Unit := do
  let values ← settings.mapM fun s => return (s.name, (← ev s.value.1).computed, s.span)
  let c : Configuration := if settings.isEmpty then {} else ⟨values, some span⟩
  let (id, left) ← loadModule run url c span
  addModule name id span
  checkUsed left

/-- What a module is told that is passed on with settings of its own: the old values that
win, with the new ones. -/
def forwardValues : List Setting → Configuration → Index (Value × Span) →
    Eval (Configuration × Index (Value × Span))
  | [], c, values => return (c, values)
  | s :: r, c, values => do
    let old := if s.isGuarded then Text.lookup? s.name c.values else none
    let c := if s.isGuarded then c.without [s.name] else c
    let isGiven :=
      match old with
      | none => false
      | some (.null, _) => false
      | some _ => true
    if isGiven then forwardValues r c values
    else
      let v := (← ev s.value.1).computed
      forwardValues r c (Index.alter s.name (fun _ => (v, s.value.2)) values)

/-- Takes away values that were used by a module that is passed on. -/
def noteUsed (front : Text) (used : List Text) : Eval Unit :=
  modify fun m => { m with configuration := m.configuration.without (used.map (front ++ ·)) }

/-- **A module whose members are passed on.** -/
def forward (url front : Text) (shown : Shown) (settings : List Setting) (span : Span) :
    Eval Unit := do
  let given := (← get).configuration.through front shown
  let (others, values) ← forwardValues ev settings given given.values
  let told : Configuration :=
    if settings.isEmpty then given
    else ⟨values, if others.span.isSome || others.values.isEmpty then some span else none⟩
  let (id, left) ← loadModule run url told span
  let view : Module := .forwarded id front
  modify fun m => { m with modules := m.modules.push view }
  modify fun m => m.changeTable fun t =>
    { t with forwarded := t.forwarded ++ [m.modules.size - 1] }
  let own := (settings.filter fun s => !s.isGuarded).map (·.name)
  let isUsed (n : Text) : Bool :=
    !List.elem n others.names || (!List.elem n left.names && !List.elem n own)
  noteUsed front (given.names.filter isUsed)
  if !settings.isEmpty then
    checkUsed { left with
      values := left.values.filter fun v => settings.any fun s => s.name == v.1 }

/-- Makes the members known that an imported sheet passes on. -/
def importMembers (forwarded : List Nat) : Eval Unit := do
  let m ← get
  let isShadowed {α : Type} (k : Machine.Kind α) (n : Text) : Bool :=
    forwarded.any fun id => (m.member? k id n).isSome
  modify fun m => m.changeBindings m.innermost fun b =>
    { vars := b.vars.filter fun v => !isShadowed Machine.vars v.1
      functions := b.functions.filter fun v => !isShadowed Machine.functions v.1
      mixins := b.mixins.filter fun v => !isShadowed Machine.mixins v.1
      modules := forwarded ++ b.modules }
  if m.atRoot then
    modify fun m => m.changeTable fun t => { t with forwarded := t.forwarded ++ forwarded }

/-- **An import of a style sheet.** A sheet that uses modules does not pass them on, and
what comes out of it is put beside all rules. -/
def importSheet (url : Text) (span : Span) : Eval Unit := do
  let s ← readSheet url span
  let m ← get
  let (uses, forwards) := s.namesModules
  if List.elem s.path m.active then fail "This file is already being loaded." span
  else if !uses && !forwards then visit run s
  else
    let table := m.tables.size
    keeping (fun m => (m.env, m.parent, m.configuration))
        (fun (env, parent, configuration) m => { m with env, parent, configuration }) do
      let known := (m.env.scopes.reverse.flatMap fun i => (m.bindingsAt i).vars)
      modify fun m => { m with
        tables := m.tables.push {}
        env := { m.env with table }
        parent := 0
        configuration :=
          if forwards then { values := known.reverse.map fun (n, v) => (n, v, span) }
          else m.configuration }
      visit run s
    importMembers ((← get).tableAt table).forwarded

/-- An import for the browser. Those that nothing is around come before all else. -/
def importCss (url : Template) (modifiers : Option Template) : Eval Unit := do
  let url ← template ev url
  let modifiers ← modifiers.mapM (template ev)
  let p : Piece := .import url modifiers
  if (← get).parent = 0 then modify fun m => { m with imports := p :: m.imports } else emit p

end

end Eval

end ModuleHooks.Sass
