import ModuleHooks.Css.Rule.Reading
import ModuleHooks.Css.Scoping
/-!
# Transforming stylesheets

A stylesheet is read into rules, its names are scoped if that is asked for, and it is
written again in one layout.
-/

namespace ModuleHooks.Css

/-- **What comes of a stylesheet.** -/
structure Output where
  /-- The stylesheet, written again. -/
  css : Text
  /-- The names it exports. -/
  exports : Exports
  deriving DecidableEq, Repr

/-- **A stylesheet.** -/
structure Sheet where
  /-- The comments at its front that have to be kept. -/
  comments : List Text
  rules : List Rule
  deriving Repr

namespace Reading

/-- The comments at the front that begin with an exclamation mark, without their marks. -/
def keptComments : List Component → List Text
  | [] => []
  | .token _ _ (.whitespace _) :: r => keptComments r
  | .token _ _ (.comment ('!' :: t)) :: r => ('!' :: t) :: keptComments r
  | _ => []

/-- Passes blanks and the marks that once hid stylesheets in pages. -/
def skipMarks : Reading Unit := fun s =>
  .ok ((), { s with
    rest := s.rest.dropWhile fun c =>
      c.isBlank || c.head == .commentOpen || c.head == .commentClose })

/-- How far the rules without a block have come after a rule: layers, then imports, then
namespaces, then all others. -/
def levelAfter (level : Nat) (name : Text) (rules : List Rule) : Nat :=
  match rules with
  | [.statement _] =>
    if name = ("import" : Text) then 2
    else if name = ("namespace" : Text) then 3
    else if level ≤ 1 then 1
    else 4
  | [.unknown _ _ none] => level
  | [] => level
  | _ => 4

/-- The rules of a stylesheet. The first argument bounds their number. -/
def rulesFrom (isScoped : Bool) : Nat → Nat → Bool → Reading (List Rule)
  | 0, _, _ => return []
  | n + 1, level, isFirst => do
    skipMarks
    match ← peek? with
    | none => return []
    | some c =>
      match c.head with
      | .atKeyword name =>
        let _ ← next
        let lower := Text.lowerAscii name
        if isFirst && lower = ("charset" : Text) then
          skipTo fun c => Stream.isCurly c || Stream.isSemicolon c
          let _ ← attempt next
          rulesFrom isScoped n level false
        else
          let rules ← bounded fun fuel => atRule fuel ⟨isScoped, false, false⟩ (some level) name
          return rules ++ (← rulesFrom isScoped n (levelAfter level lower rules) false)
      | _ =>
        let r ← bounded fun fuel => qualified fuel ⟨isScoped, false, false⟩ false
        return r :: (← rulesFrom isScoped n 4 false)

/-- **A stylesheet.** -/
def sheet (isScoped : Bool) : Reading Sheet := fun s =>
  match rulesFrom isScoped (s.rest.length + 1) 0 true s with
  | .ok (rules, r) => .ok (⟨keptComments s.rest, rules⟩, r)
  | .error f => .error f

end Reading

/-- A stylesheet, written. -/
def Sheet.write (isScoped : Bool) (s : Sheet) : Written :=
  s.comments.map (fun t => .text (['/', '*'] ++ t ++ ['*', '/', '\n'])) ++
    Rule.writeAll isScoped 0 s.rules ++ [.text ['\n']]

/-- **Transforms a stylesheet** under a file name; with a naming its classes get scoped
names. -/
def transform (css : Text) (filename : Path) (naming : Option ClassNaming) :
    Except Text Output :=
  let scoping := naming.map (Scoping.ofNaming · filename)
  let isScoped := naming.isSome
  match Reading.sheet isScoped (Stream.ofText css) with
  | .error f => .error (f.message filename)
  | .ok (sheet, _) =>
    match Scoping.render scoping [] (sheet.write isScoped) with
    | .error f => .error (f.message filename)
    | .ok (texts, exports) => .ok ⟨texts.flatten, exports⟩

end ModuleHooks.Css
