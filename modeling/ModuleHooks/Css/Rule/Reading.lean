import ModuleHooks.Css.Rule.Block
/-!
# Reading rules

A rule is a head and a block. The head ends at the first curly bracket, in some places
also at a semicolon; what is wrong with a head counts only when its block has begun. In
a style rule a name may begin a declaration or a nested rule: the declaration is tried
first, and its fault is the one that is reported when both fail.
-/

namespace ModuleHooks.Css

namespace Reading

/-- The rule that a head without a block is. -/
def statementOf? (inStyle : Bool) : Head → Option (List Rule)
  | .import t => some [.statement t]
  | .namespace t => some [.statement t]
  | .charset => some []
  | .layer names =>
    if inStyle || names.isEmpty then none
    else some [.statement (("@layer " : Text) ++ Text.join ", " names ++ [';'])]
  | .unknown name t => some [.unknown name t none]
  | _ => none

/-- The rules with one more declaration after them. -/
def addDeclaration (d : Declarations) (rules : List Rule) (isImportant : Bool)
    (x : Declaration) : Declarations × List Rule :=
  match rules.reverse with
  | [] => (d.add isImportant x, [])
  | .nested e :: r => (d, (Rule.nested (e.add isImportant x) :: r).reverse)
  | _ => (d, rules ++ [.nested (Declarations.add {} isImportant x)])

mutual

/-- What is in a block of rules: declarations, and rules that may be followed by further
declarations. The first argument bounds the work. -/
def body : Nat → Surroundings → Declarations → List Rule →
    Reading (Declarations × List Rule)
  | 0, _, _, _ => failHere .tooDeep
  | n + 1, around, d, rules => do
    skipBlanks
    match ← peek? with
    | none => return (d, rules)
    | some c =>
      match c.head with
      | .semicolon =>
        let _ ← next
        body n around d rules
      | .atKeyword name =>
        let _ ← next
        let more ← atRule n around none name
        body n around d (rules ++ more)
      | .ident name =>
        if around.hasDeclarations then
          let start ← get
          match (upTo Stream.isSemicolon do
              let _ ← next
              colon
              declarationValue around.isScoped name) start with
          | .ok ((isImportant, x), rest) =>
            set rest
            let (d, rules) := addDeclaration d rules isImportant x
            body n around d rules
          | .error f =>
            match ← attempt (qualified n around true) with
            | some r => body n around d (rules ++ [r])
            | none => throw f
        else
          let r ← qualified n around false
          body n around d (rules ++ [r])
      | _ =>
        let r ← qualified n around around.hasDeclarations
        body n around d (rules ++ [r])

/-- A style rule. Where declarations are allowed beside it, its head can also end at a
semicolon. -/
def qualified : Nat → Surroundings → Bool → Reading Rule
  | 0, _, _ => failHere .tooDeep
  | n + 1, around, isNested => do
    skipBlanks
    let stop (c : Component) : Bool := Stream.isCurly c || (isNested && Stream.isSemicolon c)
    let start ← get
    let r := if around.inStyle then nestedSelectors around.isScoped
      else selectors around.isScoped
    let found := (upTo stop r) start
    skipTo stop
    let block ← expect fun c => if Stream.isCurly c then some c else none
    match found with
    | .error f => throw f
    | .ok (s, _) =>
      let (d, rules) ← inside block
        (body n { around with inStyle := true, hasDeclarations := true } {} [])
      return .style s d rules

/-- The rules of a group. -/
def group : Nat → Surroundings → Reading (List Rule)
  | 0, _ => failHere .tooDeep
  | n + 1, around => do
    let (d, rules) ← body n { around with hasDeclarations := around.inStyle } {} []
    return if d.count = 0 then rules else .nested d :: rules

/-- What a head and its block are. -/
def blockOf : Nat → Surroundings → Head → Reading (List Rule)
  | 0, _, _ => failHere .tooDeep
  | n + 1, around, h =>
    match h with
    | .nest s => do
      let (d, rules) ← body n { around with hasDeclarations := true } {} []
      return [.nest s d rules]
    | .group head => do return [.group head (← group n around)]
    | .layer names =>
      let head : Text :=
        if names.isEmpty then "@layer" else ("@layer " : Text) ++ Text.join ", " names
      if names.length > 1 then failHere .invalidRuleBody
      else do return [.group (Written.text head) (← group n around)]
    | .keyframes head => do return [.keyframes head (← steps n)]
    | .fontFace => do
      let d ← items (descriptionItems fontDescription?) {}
      return [.block (Written.text ("@font-face" : Text)) d]
    | .viewTransition => do
      let d ← items (descriptionItems transitionDescription?) {}
      return [.block (Written.text ("@view-transition" : Text)) d]
    | .palette name => do
      let d ← items paletteItems {}
      return [.block (Written.text (("@font-palette-values " : Text) ++ writeIdent name)) d]
    | .featureSets families => do return [.featureSets families (← featureSets n [])]
    | .block head => do return [.block head (← declarations around.isScoped)]
    | .page head => do
      let (d, margins) ← items (pageItems around.isScoped) ({}, [])
      return [.page head d margins]
    | .property name => do return [.definition (← definition name)]
    | .unknown name t => do return [.unknown name t (some (← tokenList))]
    | .import _ => failHere (.unexpected (.opening .curly))
    | .namespace _ => failHere (.unexpected (.opening .curly))
    | .charset => failHere (.unexpected (.opening .curly))

/-- An at-rule after its name; at the top the level says which rules came before. -/
def atRule : Nat → Surroundings → Option Nat → Text → Reading (List Rule)
  | 0, _, _, _ => failHere .tooDeep
  | n + 1, around, level, name => do
    let lower := Text.lowerAscii name
    let r := ((level.bind (topHead lower)).getD (head around name))
    let h ← upTo endsHead r
    match ← attempt next with
    | none =>
      match statementOf? around.inStyle h with
      | some rules => return rules
      | none => failHere (.unexpected .semicolon)
    | some c =>
      if Stream.isSemicolon c then
        match statementOf? around.inStyle h with
        | some rules => return rules
        | none => failHere (.unexpected .semicolon)
      else inside c (blockOf n around h)

end

end Reading

end ModuleHooks.Css
