import ModuleHooks.Sass.Template
/-!
# Media queries

A query has a type with a modifier before it, and conditions. A rule inside of another
one applies where both of their queries hold; often one query says so.
-/

namespace ModuleHooks.Sass

/-- **A media query.** -/
structure MediaQuery where
  /-- The word before the type. -/
  modifier : Option Text := none
  /-- The type of the medium. -/
  type : Option Text := none
  /-- The conditions, with their brackets. -/
  conditions : List Text := []
  /-- All the conditions have to hold, and not only one of them. -/
  isConjunction : Bool := true
  deriving DecidableEq, Repr

/-- What two queries come to. -/
inductive MergedQuery where
  /-- They never hold together. -/
  | never
  /-- No query says it. -/
  | unsaid
  | merged (q : MediaQuery)

namespace MediaQuery

/-- Whether the query is for all types. -/
def isForAll (q : MediaQuery) : Bool :=
  match q.type with
  | none => true
  | some t => Text.lowerAscii t == ("all" : Text)

/-- Whether the query excludes its type. -/
def isNegative (q : MediaQuery) : Bool := q.modifier.map Text.lowerAscii == some ("not" : Text)

/-- **Two queries that have to hold together.** -/
def merge (p q : MediaQuery) : MergedQuery :=
  let low (t : Option Text) := t.map Text.lowerAscii
  let both := p.conditions ++ q.conditions
  if !p.isConjunction || !q.isConjunction then .unsaid
  else if p.type.isNone && q.type.isNone then .merged { conditions := both }
  else if p.isNegative != q.isNegative then
    let (negative, positive) := if p.isNegative then (p, q) else (q, p)
    if low p.type == low q.type then
      if negative.conditions.all fun c => List.elem c positive.conditions then .never else .unsaid
    else if p.isForAll || q.isForAll then .unsaid
    else .merged positive
  else if p.isNegative then
    let (more, fewer) :=
      if p.conditions.length > q.conditions.length then (p.conditions, q.conditions)
      else (q.conditions, p.conditions)
    if low p.type != low q.type then .unsaid
    else if fewer.all fun c => List.elem c more then .merged { p with conditions := more }
    else .unsaid
  else if p.isForAll then
    let type := if q.isForAll && p.type.isNone then none else q.type
    .merged { q with type := type, conditions := both }
  else if q.isForAll then .merged { p with conditions := both }
  else if low p.type != low q.type then .never
  else .merged { p with modifier := p.modifier.or q.modifier, conditions := both }

/-- Two lists of queries, one of which has to hold of each; nothing, if it cannot be
said. -/
def mergeLists (ps qs : List MediaQuery) : Option (List MediaQuery) :=
  (ps.flatMap fun p => qs.map fun q => p.merge q).foldr
    (fun m acc =>
      match m, acc with
      | _, none => none
      | .never, acc => acc
      | .unsaid, _ => none
      | .merged q, some qs => some (q :: qs))
    (some [])

/-- **A query, written.** -/
def write (q : MediaQuery) : Text :=
  let modifier : Text := (q.modifier.map (· ++ [' '])).getD []
  let type : Text :=
    match q.type with
    | some t => t ++ if q.conditions.isEmpty then [] else " and ".toList
    | none => []
  let plain := Text.join (if q.isConjunction then " and " else " or ") q.conditions
  let conditions :=
    match q.conditions with
    | [c] =>
      match Text.stripStart? "(not " c with
      | some inner => "not ".toList ++ inner.dropLast
      | none => plain
    | _ => plain
  modifier ++ type ++ conditions

end MediaQuery

namespace Reader

/-- A condition in its brackets. -/
def mediaCondition : Reader Text := do
  expect '('
  let value ← declarationValue (fun _ => failHere "Expected expression.") {}
  expect ')'
  return '(' :: (Template.plain? value).getD [] ++ [')']

/-- Conditions with one word between them. -/
def mediaConditions (word : Text) : Reader (List Text) := do
  let list ← iterate (fun (acc : List Text) => do
    let c ← mediaCondition
    whitespace
    if ← scanName word then
      expectWhitespace
      return .again (c :: acc)
    else return .done (c :: acc)) []
  return list.reverse

/-- A media query without code. -/
def plainMediaQuery : Reader MediaQuery := do
  if ← isNext '(' then
    let first ← mediaCondition
    whitespace
    if ← scanName "and" then
      expectWhitespace
      return { conditions := first :: (← mediaConditions "and") }
    else if ← scanName "or" then
      expectWhitespace
      return { conditions := first :: (← mediaConditions "or"), isConjunction := false }
    else return { conditions := [first] }
  else
    let excluded : Reader (List Text) := do
      return ["(not ".toList ++ (← mediaCondition) ++ [')']]
    let first ← name
    if Text.lowerAscii first = ("not" : Text) then
      expectWhitespace
      if !(← atName) then return { conditions := ← excluded }
    whitespace
    if !(← atName) then return { type := some first }
    let second ← name
    let isAnd := Text.lowerAscii second == ("and" : Text)
    if isAnd then expectWhitespace else whitespace
    let q : MediaQuery :=
      if isAnd then { type := some first } else { modifier := some first, type := some second }
    let goesOn ← if isAnd then pure true else scanName "and"
    if !goesOn then return q
    if !isAnd then expectWhitespace
    if ← scanName "not" then
      expectWhitespace
      return { q with conditions := ← excluded }
    else return { q with conditions := ← mediaConditions "and" }

/-- Media queries without code. -/
def plainMediaQueries : Reader (List MediaQuery) := do
  let list ← iterate (fun (acc : List MediaQuery) => do
    whitespace
    let q ← plainMediaQuery
    whitespace
    if ← scan ',' then return .again (q :: acc) else return .done (q :: acc)) []
  if ← isDone then return list.reverse else failHere "expected no more input."

end Reader

/-- **Reads media queries** from a text that was made from a stretch of a source. -/
def readMediaQueries (t : Text) (span : Span) : Except Fault (List MediaQuery) :=
  (Reader.plainMediaQueries (Feed.ofText t span) {}).map (·.1)

end ModuleHooks.Sass
