import ModuleHooks.Sass.Selector.Unify
/-!
# Extending selectors

A rule may say that its selector extends another one: whatever matches the rule shall be
matched wherever the other selector is. The selectors of all rules are kept together with
the extensions, so that a rule is extended by what was said before it and by what is said
after it, and an extension by another one.

Selectors that say nothing more than others do are left out again, except those that were
written in the source and those that are needed for their specificity.
-/

namespace ModuleHooks.Sass

/-- Values under texts, in the order in which they came. -/
abbrev Index (α : Type) := List (Text × α)

/-- The value under a text changed, or put at the end. -/
def Index.alter {α : Type} (key : Text) (f : Option α → α) : Index α → Index α
  | [] => [(key, f none)]
  | (k, v) :: r => if k == key then (k, f (some v)) :: r else (k, v) :: alter key f r

/-- The complex selectors that extend each simple selector, under their keys. -/
abbrev Extenders := Index (Index Complex)

/-- How targets are treated when several of them are extended at once. -/
inductive ExtendMode where
  /-- Each target on its own. -/
  | normal
  /-- All targets together; they stay. -/
  | all
  /-- All targets together; they go. -/
  | replace
  deriving DecidableEq, Repr

/-- What an extension is done with. -/
structure Extending where
  /-- How targets are treated. -/
  mode : ExtendMode
  /-- The extensions. -/
  extenders : Extenders
  /-- The specificity of the sources of simple selectors. -/
  specificity : Index Nat

/-- A computation that may find more selectors to be as good as written. -/
abbrev Extend := StateM (List Text)

namespace Extending

/-- The specificity that a complex selector has to keep. -/
def sourceSpecificity (x : Extending) (c : Complex) : Nat :=
  ((c.limbs.flatMap Limb.simples).map fun s => (Text.lookup? s.key x.specificity).getD 0).foldl max 0

/-- The first items up to a place, with the last one of them first. -/
def rotate {α : Type} (list : List α) (i : Nat) : List α :=
  match list[i]? with
  | some x => x :: (list.take i ++ list.drop (i + 1))
  | none => list

/-- The position of an item. -/
def indexOf? (c : Complex) : Nat → List Complex → Option Nat
  | _, [] => none
  | i, d :: r => if c == d then some i else indexOf? c (i + 1) r

/-- **Leaves out selectors that say nothing more than others.** -/
def trim (x : Extending) (isAuthored : Complex → Bool) (selectors : List Complex) : List Complex :=
  if selectors.length > 100 then selectors
  else
    let (result, _) := ((List.range selectors.length).reverse.zip selectors.reverse).foldl
      (fun (result, authored) (i, c) =>
        if isAuthored c then
          match indexOf? c 0 (result.take authored) with
          | some j => (rotate result j, authored)
          | none => (c :: result, authored + 1)
        else
          let most := x.sourceSpecificity c
          let covers (d : Complex) : Bool := d.least ≥ most && d.isAbove c
          if result.any covers || (selectors.take i).any covers then (result, authored)
          else (c :: result, authored))
      (([] : List Complex), 0)
    result

/-- One way to take a simple selector: a complex selector, and whether it is the one that
was there. -/
structure Choice where
  /-- The complex selector. -/
  complex : Complex
  /-- Whether it is the one that was there. -/
  isAuthored : Bool

/-- A simple selector as it was. -/
def kept (s : Simple) : Choice := ⟨.of [.compound [s]] false, true⟩

/-- The ways to take a simple selector, without what is inside of it. -/
def extendPlain (x : Extending) (s : Simple) : Option (List Choice) :=
  (Text.lookup? s.key x.extenders).map fun extenders =>
    (if x.mode = .replace then [] else [kept s]) ++ extenders.map fun e => ⟨e.2, false⟩

/-- The complex selectors that may take the place of one inside of a pseudo-class. -/
def unwrapInner (pseudo : Simple) (c : Complex) : List Complex :=
  match c.limbs with
  | [.compound [inner]] =>
    match inner.inner? with
    | none => [c]
    | some list =>
      let kind := pseudo.pseudoName
      let innerKind := inner.pseudoName
      if kind = ("not" : Text) then
        if List.elem innerKind (List.map String.toList ["is", "matches", "where"]) then list else []
      else if List.elem kind (List.map String.toList
          ["is", "matches", "where", "any", "current", "nth-child", "nth-last-child"]) then
        match pseudo, inner with
        | .pseudo n _ _ a _, .pseudo m _ _ b _ => if n == m && a == b then list else []
        | _, _ => []
      else if List.elem kind (List.map String.toList ["has", "host", "host-context", "slotted"]) then
        [c]
      else []
  | _ => [c]

/-- A pseudo-class whose inner selector is extended. -/
def extendPseudo (inner : Selector → Extend (Option Selector)) (s : Simple) :
    Extend (Option (List Simple)) := do
  match s.inner? with
  | none => return none
  | some list =>
    match ← inner list with
    | none => return none
    | some extended =>
      let isNot := s.pseudoName == ("not" : Text)
      let isShort (c : Complex) : Bool := c.limbs.length ≤ 1
      let complexes :=
        if isNot && list.all isShort && extended.any (fun c => c.limbs.length == 1) then
          extended.filter isShort
        else extended
      let complexes := complexes.flatMap (unwrapInner s)
      if isNot && list.length == 1 then
        let all := complexes.map fun c => s.withInner [c]
        return if all.isEmpty then none else some all
      else return some [s.withInner complexes]

/-- The ways to take a simple selector. -/
def extendSimple (x : Extending) (inner : Selector → Extend (Option Selector)) (s : Simple) :
    Extend (Option (List (List Choice))) := do
  let plain := (x.extendPlain s).map fun o => [o]
  match ← extendPseudo inner s with
  | some pseudos => return some (pseudos.map fun p => (x.extendPlain p).getD [kept p])
  | none => return plain

/-- The ways to take each of some simple selectors; those before the first that is
extended stay together. -/
def gatherOptions (x : Extending) (inner : Selector → Extend (Option Selector)) :
    List Simple → List Simple → Option (List (List Choice)) →
      Extend (Option (List (List Choice)))
  | [], _, acc => return acc
  | s :: r, before, acc => do
    match ← extendSimple x inner s, acc with
    | none, none => gatherOptions x inner r (before ++ [s]) none
    | none, some options => gatherOptions x inner r (before ++ [s]) (some (options ++ [[kept s]]))
    | some new, none =>
      let front := if before.isEmpty then [] else [[⟨.of [.compound before] false, true⟩]]
      gatherOptions x inner r (before ++ [s]) (some (front ++ new))
    | some new, some options => gatherOptions x inner r (before ++ [s]) (some (options ++ new))

/-- The last compound selector of a complex one. -/
def lastSimples (c : Complex) : List Simple := ((c.limbs.getLast?).map Limb.simples).getD []

/-- One choice of ways, brought together. -/
def unifyPath (path : List Choice) : Option (List Row) :=
  let authored := (path.filter (·.isAuthored)).flatMap fun o => lastSimples o.complex
  let others := (path.filter fun o => !o.isAuthored).map fun o => o.complex.limbs
  unifyRows (if path.any (·.isAuthored) then [Limb.compound authored] :: others else others)

/-- **The complex selectors that a compound one is extended to.** -/
def extendCompound (x : Extending) (inner : Selector → Extend (Option Selector))
    (ss : List Simple) (inAuthored : Bool) : Extend (Option (List Complex)) := do
  match ← gatherOptions x inner ss [] none with
  | none => return none
  | some options =>
    let used := x.extenders.filter fun e => ss.any fun s => s.key == e.1
    if x.mode != .normal && x.extenders.length ≥ 2 && used.length != x.extenders.length then
      return none
    else
      match options with
      | [only] => return some (only.map (·.complex))
      | _ =>
        let paths := pathsThrough options
        let rows : List (List Complex) := paths.zipIdx.map fun (path, i) =>
          let onNewLine := path.any fun o => o.complex.onNewLine
          let rows :=
            if i = 0 && x.mode != .replace then
              [[Limb.compound (path.flatMap fun o => lastSimples o.complex)]]
            else (unifyPath path).getD []
          rows.map fun row => Complex.of row onNewLine
        let first := (rows.head?).bind List.head?
        let isAuthored (c : Complex) : Bool :=
          inAuthored && x.mode != .replace && first.any (· == c)
        return some (x.trim isAuthored rows.flatten)

/-- **The complex selectors that a complex one is extended to.** -/
def extendComplex (x : Extending) (inner : Selector → Extend (Option Selector)) (c : Complex) :
    Extend (Option (List Complex)) := do
  let isAuthored := List.elem c.key (← get)
  let parts ← c.limbs.mapM fun limb => do
    match limb with
    | .combinator _ => return (limb, none)
    | .compound ss => return (limb, ← x.extendCompound inner ss isAuthored)
  if parts.all fun p => p.2.isNone then return none
  else
    let choices := parts.map fun (limb, extended) => extended.getD [.of [limb] c.onNewLine]
    let all := (pathsThrough choices).flatMap fun path =>
      (weave (path.map Complex.limbs)).map fun row =>
        Complex.of row (c.onNewLine || path.any Complex.onNewLine)
    match all.head? with
    | some d => if isAuthored then modify (d.key :: ·)
    | none => pure ()
    return some all

/-- A selector extended, up to some depth, if anything in it is. -/
def extendWithin (x : Extending) : Nat → Selector → Extend (Option Selector)
  | 0, _ => return none
  | n + 1, s => do
    let parts ← s.mapM fun c => return (c, ← x.extendComplex (extendWithin x n) c)
    if parts.all fun p => p.2.isNone then return none
    else
      let all := parts.flatMap fun (c, extended) => extended.getD [c]
      let authored ← get
      return some (x.trim (fun c => List.elem c.key authored) all)

/-- **A selector extended**, if anything in it is. -/
def extend? (x : Extending) (s : Selector) : Extend (Option Selector) :=
  extendWithin x nestingLimit s

end Extending

/-! ## The selectors of all rules -/

/-- An extension: what extends a simple selector. -/
structure Extension where
  /-- The key of what is extended. -/
  target : Text
  /-- What extends it. -/
  extender : Complex

/-- **The selectors of all rules**, with the extensions. -/
structure ExtensionStore where
  /-- The selector of each rule. -/
  selectors : Array Selector := #[]
  /-- Which rules use a simple selector. -/
  users : Index (List Nat) := []
  /-- The extensions. -/
  extenders : Extenders := []
  /-- The extensions whose extenders use a simple selector. -/
  byExtender : Index (List Extension) := []
  /-- The specificity of the sources of simple selectors. -/
  specificity : Index Nat := []
  /-- The keys of the complex selectors that were written. -/
  authored : List Text := []

namespace ExtensionStore

mutual

/-- The simple selectors of some, and of those inside of them. -/
def allSimples : List Simple → List Simple
  | [] => []
  | .pseudo n c o a (some inner) :: r =>
    .pseudo n c o a (some inner) :: (complexSimples inner ++ allSimples r)
  | s :: r => s :: allSimples r

/-- The simple selectors of pieces. -/
def limbSimples : List Limb → List Simple
  | [] => []
  | .compound ss :: r => allSimples ss ++ limbSimples r
  | .combinator _ :: r => limbSimples r

/-- The simple selectors of complex selectors. -/
def complexSimples : List Complex → List Simple
  | [] => []
  | .of ls _ :: r => limbSimples ls ++ complexSimples r

end

/-- What an extension is done with, for some extenders. -/
def extending (st : ExtensionStore) (extenders : Extenders) : Extending :=
  ⟨.normal, extenders, st.specificity⟩

/-- Notes which simple selectors a rule uses. -/
def register (st : ExtensionStore) (id : Nat) (s : Selector) : ExtensionStore :=
  (complexSimples s).foldl
    (fun st simple =>
      { st with
        users := Index.alter simple.key
          (fun ids => if List.elem id (ids.getD []) then ids.getD [] else ids.getD [] ++ [id])
          st.users })
    st

/-- **Takes the selector of a rule**, extended by what is known, and gives its number. -/
def add (st : ExtensionStore) (s : Selector) : Nat × ExtensionStore :=
  let st :=
    if allHidden s then st
    else { st with authored := s.map Complex.key ++ st.authored }
  let (s, st) :=
    if st.extenders.isEmpty then (s, st)
    else
      let (extended, authored) := (st.extending st.extenders).extend? s |>.run st.authored
      (extended.getD s, { st with authored := authored })
  let id := st.selectors.size
  (id, { st with selectors := st.selectors.push s }.register id s)

/-- The selector of a rule. -/
def selector (st : ExtensionStore) (id : Nat) : Selector := st.selectors[id]?.getD []

/-- Extends selectors of rules that are there. -/
def extendSelectors (st : ExtensionStore) (ids : List Nat) (new : Extenders) : ExtensionStore :=
  ids.foldl
    (fun st id =>
      let (extended, authored) := (st.extending new).extend? (st.selector id) |>.run st.authored
      let st := { st with authored := authored }
      match extended with
      | none => st
      | some s => { st with selectors := st.selectors.setIfInBounds id s }.register id s)
    st

/-- Notes an extension under the simple selectors of its extender. -/
def noteExtension (st : ExtensionStore) (e : Extension) : ExtensionStore :=
  (e.extender.limbs.flatMap Limb.simples).foldl
    (fun st s =>
      { st with byExtender := Index.alter s.key (fun l => l.getD [] ++ [e]) st.byExtender })
    st

/-- Extends the extenders of extensions that are there, and gives the extensions that
come of it for targets that are being extended. -/
def extendExtensions (st : ExtensionStore) (existing : List Extension) (new : Extenders) :
    Extenders × ExtensionStore :=
  existing.foldl
    (fun (more, st) e =>
      let x := st.extending new
      let (extended, authored) :=
        (x.extendComplex (x.extendWithin nestingLimit) e.extender).run st.authored
      let st := { st with authored := authored }
      match extended with
      | none => (more, st)
      | some complexes =>
        let keepsOld := (complexes.head?).any (· == e.extender)
        let (more, st) := complexes.foldl
          (fun (more, st) c =>
            let sources := (Text.lookup? e.target st.extenders).getD []
            if (Text.lookup? c.key sources).isSome then (more, st)
            else
              let put : Option (Index Complex) → Index Complex := fun l => l.getD [] ++ [(c.key, c)]
              let st := { st with extenders := Index.alter e.target put st.extenders }
              let st := st.noteExtension { e with extender := c }
              if (Text.lookup? e.target new).isSome then (Index.alter e.target put more, st)
              else (more, st))
          (more, st)
        if keepsOld then (more, st)
        else
          let drop (l : Option (Index Complex)) : Index Complex :=
            (l.getD []).filter fun p => p.1 != e.extender.key
          (more, { st with extenders := Index.alter e.target drop st.extenders }))
    ([], st)

/-- **A selector extends a simple one from here on**, and in the rules that are there. -/
def addExtension (st : ExtensionStore) (extender : Selector) (target : Simple) : ExtensionStore :=
  let key := target.key
  let users := (Text.lookup? key st.users).getD []
  let existing := (Text.lookup? key st.byExtender).getD []
  let (fresh, st) := extender.foldl
    (fun (fresh, st) c =>
      let sources := (Text.lookup? key st.extenders).getD []
      if (Text.lookup? c.key sources).isSome then (fresh, st)
      else
        let st := { st with
          extenders := Index.alter key (fun l => l.getD [] ++ [(c.key, c)]) st.extenders }
        let st := st.noteExtension ⟨key, c⟩
        let st := (c.limbs.flatMap Limb.simples).foldl
          (fun st s =>
            { st with specificity := Index.alter s.key (fun o => o.getD c.most) st.specificity })
          st
        (fresh ++ [(c.key, c)], st))
    (([] : Index Complex), st)
  if fresh.isEmpty || (users.isEmpty && existing.isEmpty) then st
  else
    let new : Extenders := [(key, fresh)]
    let (more, st) := if existing.isEmpty then ([], st) else st.extendExtensions existing new
    let new := more.foldl
      (fun new (target, list) => Index.alter target (fun l => l.getD [] ++ list) new) new
    st.extendSelectors users new

end ExtensionStore

/-- A selector with some others extended, or replaced. -/
def Selector.extendAll (s extendee extender : Selector) (mode : ExtendMode) : Selector :=
  let step (s : Selector) (c : Complex) : Selector :=
    let targets := c.limbs.flatMap Limb.simples
    let extenders : Extenders := targets.map fun t => (t.key, extender.map fun e => (e.key, e))
    let x : Extending := ⟨mode, extenders, []⟩
    (((x.extend? s).run (if allHidden s then [] else s.map Complex.key)).1).getD s
  extendee.foldl step s

end ModuleHooks.Sass
