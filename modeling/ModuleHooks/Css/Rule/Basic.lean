import ModuleHooks.Css.Selector.Basic
/-!
# Rules

The rules of a stylesheet and how they are laid out: two columns for each level, a blank
line between rules, no blank line between rules that have no block.
-/

namespace ModuleHooks.Css

/-- **A declaration.** -/
inductive Declaration where
  | property (name : Text) (value : Written)
  /-- The classes that the class of the rule is composed with, and where that is said. -/
  | composes (names : List Text) (source : Option Text) (isGlobal : Bool) (place : Place)
  deriving Repr

/-- **The declarations of a block**: those that matter more follow the others. -/
structure Declarations where
  normal : List Declaration := []
  important : List Declaration := []
  deriving Repr

/-- **The definition of a custom property.** -/
structure Definition where
  name : Text
  /-- The grammar of its values, as it is written. -/
  grammar : Text
  inherits : Bool
  initial : Option Written
  deriving Repr

/-- **Features of fonts that have a name**: the kind of the features, and for each name the
features that it stands for. -/
structure FeatureSet where
  kind : Text
  features : List (Text × List Int)
  deriving Repr

/-- **A rule.** -/
inductive Rule where
  | style (selectors : List Selector) (declarations : Declarations) (rules : List Rule)
  /-- A style rule that names the rule around it. -/
  | nest (selectors : List Selector) (declarations : Declarations) (rules : List Rule)
  /-- Rules under a head. -/
  | group (head : Written) (rules : List Rule)
  /-- A rule without a block. -/
  | statement (written : Text)
  /-- Declarations under a head. -/
  | block (head : Written) (declarations : Declarations)
  /-- The steps of an animation. -/
  | keyframes (head : Written) (steps : List (Text × Declarations))
  /-- A page with the boxes in its margin. -/
  | page (head : Text) (declarations : Declarations) (margins : List (Text × Declarations))
  | definition (d : Definition)
  /-- The names that families of fonts give to features. -/
  | featureSets (families : Text) (sets : List FeatureSet)
  /-- Declarations that follow a nested rule. -/
  | nested (declarations : Declarations)
  /-- A rule that is not known, by its tokens. -/
  | unknown (name : Text) (head : Text) (body : Option Text)
  deriving Repr

namespace Declarations

/-- How many there are. -/
def count (d : Declarations) : Nat := d.normal.length + d.important.length

/-- One more declaration. -/
def add (d : Declarations) (isImportant : Bool) (x : Declaration) : Declarations :=
  if isImportant then { d with important := d.important ++ [x] }
  else { d with normal := d.normal ++ [x] }

end Declarations

namespace Rule

/-- A line end before a line that is indented. -/
def newline (indent : Nat) : Text := '\n' :: List.replicate indent ' '

/-- Pieces with their line ends in place. -/
def placed (indent : Nat) (w : Written) : Written :=
  w.map fun
    | .lineBreak columns => .text (newline (indent + columns))
    | p => p

/-- The composition of the classes that selectors consist of. -/
def compose (indent : Nat) (selectors : List Selector) (names : List Text)
    (source : Option Text) (isGlobal : Bool) (place : Place) : Written :=
  if indent > 2 then [.fault ⟨.composesNested, place⟩]
  else
    selectors.map fun s =>
      match Selector.onlyClass? s with
      | some name => .composition name names source isGlobal
      | none => .fault ⟨.composesSelector, place⟩

/-- The end of a declaration. -/
def writeEnd (isImportant : Bool) : Text := if isImportant then " !important;" else ";"

/-- A declaration that leaves text, written. -/
def writeDeclaration (isImportant : Bool) : Declaration → Option Written
  | .property name value =>
    some (.text (writeIdent name ++ ": ".toList) :: value ++ [.text (writeEnd isImportant)])
  | .composes .. => none

/-- A declaration in a block without selectors: there a composition has no effect and is
written like others. -/
def writePlainDeclaration (isImportant : Bool) : Declaration → Written
  | .property name value =>
    .text (writeIdent name ++ ": ".toList) :: value ++ [.text (writeEnd isImportant)]
  | .composes names source isGlobal _ =>
    let origin : Text :=
      match source with
      | some file => (" from " : Text) ++ writeString file
      | none => if isGlobal then " from global" else []
    .text "composes: " :: Written.joined " " (names.map Written.ofLocal) ++
      [.text (origin ++ writeEnd isImportant)]

/-- The compositions among declarations. -/
def compositions (indent : Nat) (selectors : List Selector) (ds : List Declaration) : Written :=
  ds.flatMap fun
    | .composes names source isGlobal place =>
      compose indent selectors names source isGlobal place
    | .property .. => []

/-- Declarations on a line each. -/
def writeDeclarations (indent : Nat) (selectors : List Selector) (d : Declarations) : Written :=
  let lines := d.normal.filterMap (writeDeclaration false) ++
    d.important.filterMap (writeDeclaration true)
  compositions indent selectors (d.normal ++ d.important) ++
    Written.joined (newline indent) (lines.map (placed indent))

/-- Declarations on a line each, in a block without selectors. -/
def writePlainDeclarations (indent : Nat) (d : Declarations) : Written :=
  let lines := d.normal.map (writePlainDeclaration false) ++
    d.important.map (writePlainDeclaration true)
  Written.joined (newline indent) (lines.map (placed indent))

/-- A block of declarations after its head. -/
def writeBlock (indent : Nat) (d : Declarations) : Written :=
  let inner := indent + 2
  .text " \x7b" ::
    (if d.count = 0 then [] else .text (newline inner) :: writePlainDeclarations inner d) ++
    [.text (newline indent ++ ['\x7d'])]

/-- The definition of a custom property. Only the initial value has a semicolon after it. -/
def writeDefinition (indent : Nat) (d : Definition) : Written :=
  let line := newline (indent + 2)
  .text (("@property " : Text) ++ writeIdent d.name ++ " \x7b".toList ++ line ++
      "syntax: ".toList ++ d.grammar ++ ';' :: line ++ "inherits: ".toList ++
      (if d.inherits then "true" else "false").toList) ::
    (match d.initial with
      | some w => .text (';' :: line ++ "initial-value: ".toList) :: w ++ [.text [';']]
      | none => []) ++
    [.text (newline indent ++ ['\x7d'])]

/-- Features of one kind. -/
def writeFeatureSet (indent : Nat) (s : FeatureSet) : Text :=
  let line (f : Text × List Int) : Text :=
    newline (indent + 2) ++ writeIdent f.1 ++ ": ".toList ++
      Text.join [' '] (f.2.map Text.ofInt) ++ [';']
  '@' :: s.kind ++ '\x7b' :: s.features.flatMap line ++ newline indent ++ ['\x7d']

/-- The names of features; they are not indented in their block. -/
def writeFeatureSets (indent : Nat) (families : Text) (sets : List FeatureSet) : Text :=
  ("@font-feature-values " : Text) ++ families ++ " \x7b".toList ++
    (sets.map fun s => newline indent ++ writeFeatureSet indent s).flatten ++
    (if sets.isEmpty then [] else newline indent) ++ ['\x7d']

/-- Blocks with their heads, a blank line between each two. -/
def writeBlocks (indent : Nat) (blocks : List (Text × Declarations)) : Written :=
  Written.joined ('\n' :: newline indent)
    (blocks.map fun b => .text b.1 :: writeBlock indent b.2)

/-- Whether a rule stands right below another rule without a block. -/
def isStatement : Rule → Bool
  | .statement _ => true
  | _ => false

/-- A style rule; the rules inside it are written already. -/
def writeStyle (isScoped : Bool) (indent : Nat) (selectors : List Selector) (d : Declarations)
    (rules : Written) : Written :=
  let inner := indent + 2
  Selector.writeList isScoped selectors ++ .text " \x7b" ::
    (if d.count = 0 then [] else .text (newline inner) :: writeDeclarations inner selectors d) ++
    (if rules.isEmpty then []
      else .text (if d.count = 0 then newline inner else '\n' :: newline inner) :: rules) ++
    [.text (newline indent ++ ['\x7d'])]

mutual

/-- A rule; `isScoped` says whether its names are local. -/
def write (isScoped : Bool) (indent : Nat) : Rule → Written
  | .style selectors d rules =>
    writeStyle isScoped indent selectors d (writeAll isScoped (indent + 2) rules)
  | .nest selectors d rules =>
    .text "@nest " ::
      writeStyle isScoped indent selectors d (writeAll isScoped (indent + 2) rules)
  | .group head rules =>
    let inner := indent + 2
    head ++ .text (" \x7b".toList ++ newline inner) :: writeAll isScoped inner rules ++
      [.text (newline indent ++ ['\x7d'])]
  | .statement t => Written.text t
  | .block head d => head ++ writeBlock indent d
  | .keyframes head steps =>
    let inner := indent + 2
    head ++ .text " \x7b" ::
      (if steps.isEmpty then [] else .text (newline inner) :: writeBlocks inner steps) ++
      [.text (newline indent ++ ['\x7d'])]
  | .page head d margins =>
    let inner := indent + 2
    .text head :: .text " \x7b" ::
      (if d.count = 0 then [] else .text (newline inner) :: writePlainDeclarations inner d) ++
      (if margins.isEmpty then []
        else .text (if d.count = 0 then newline inner else '\n' :: newline inner) ::
          writeBlocks inner margins) ++
      [.text (newline indent ++ ['\x7d'])]
  | .definition d => writeDefinition indent d
  | .featureSets families sets => Written.text (writeFeatureSets indent families sets)
  | .nested d => writeDeclarations indent [] d
  | .unknown name head body =>
    let head : Text := if head = [] then [] else ' ' :: head
    match body with
    | none => Written.text ('@' :: name ++ head ++ [';'])
    | some t =>
      Written.text ('@' :: name ++ head ++ " \x7b".toList ++ newline (indent + 2) ++ t ++
        newline indent ++ ['\x7d'])

/-- Rules one after the other. -/
def writeAll (isScoped : Bool) (indent : Nat) : List Rule → Written
  | [] => []
  | [r] => write isScoped indent r
  | r :: s :: rest =>
    let close := isStatement r && isStatement s
    write isScoped indent r ++
      .text (if close then newline indent else '\n' :: newline indent) ::
      writeAll isScoped indent (s :: rest)

end

end Rule

end ModuleHooks.Css
