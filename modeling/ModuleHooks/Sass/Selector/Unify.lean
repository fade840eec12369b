import ModuleHooks.Sass.Selector.Superselector
/-!
# Selectors brought together

Two compound selectors come together to one that matches what both match, if there is
one. Two rows of pieces that end in such selectors can be woven in several ways, because
nothing says which of the pieces of one row stand before those of the other one.
-/

namespace ModuleHooks.Sass

/-- Whether a simple selector is of all elements. -/
def Simple.isUniversal : Simple → Bool
  | .universal _ => true
  | _ => false

/-- Whether a simple selector is a pseudo-class or a pseudo-element. -/
def Simple.isPseudo : Simple → Bool
  | .pseudo .. => true
  | _ => false

/-- Whether a simple selector is of the host of a shadow tree. -/
def Simple.isHost : Simple → Bool
  | .pseudo n true _ _ _ => n == ("host" : Text) || n == ("host-context" : Text)
  | _ => false

/-- The namespace and the name of an element; all elements have no name. -/
def Simple.qualified? : Simple → Option (Space × Option Text)
  | .universal s => some (s, none)
  | .element s n => some (s, some n)
  | _ => none

/-- Two elements brought together. -/
def unifyElements (a b : Simple) : Option Simple := do
  let (s, n) ← a.qualified?
  let (t, m) ← b.qualified?
  let space ← if s = t || t = .any then some s else if s = .any then some t else none
  let name ←
    match n, m with
    | some n, some m => if n = m then some (some n) else none
    | some n, none => some (some n)
    | none, m => some m
  return (name.map (Simple.element space)).getD (.universal space)

/-- A simple selector put before the first of some others that satisfies a test, or at
the end. -/
def insertBefore (test : Simple → Bool) (s : Simple) : List Simple → List Simple
  | [] => [s]
  | t :: r => if test t then s :: t :: r else t :: insertBefore test s r

/-- An element, or all elements, brought together with a compound selector. -/
def unifyElement (s : Simple) (ss : List Simple) : Option (List Simple) :=
  match ss with
  | first :: rest =>
    if first.qualified?.isSome then (unifyElements s first).map (· :: rest)
    else if !s.isUniversal then some (s :: ss)
    else if rest.isEmpty && first.isHost then none
    else
      match s with
      | .universal .default | .universal .any => some ss
      | _ => some (s :: ss)
  | [] => some [s]

/-- **A simple selector brought together with a compound one.** -/
def unifySimple (s : Simple) (ss : List Simple) : Option (List Simple) :=
  let onlyOther? : Option Simple :=
    match ss with
    | [t] => if t.isUniversal || t.isHost then some t else none
    | _ => none
  match s with
  | .universal _ | .element .. => unifyElement s ss
  | .pseudo _ isClass _ _ _ =>
    if s.isHost then
      if !(ss.all fun t => t.isPseudo && (t.isHost || t.inner?.isSome)) then none
      else if ss.any (s == ·) then some ss
      else some (insertBefore Simple.isPseudoElement s ss)
    else
      match onlyOther? with
      | some t =>
        if t.isUniversal then unifyElement t [s]
        else if s.inner?.isSome then some (insertBefore Simple.isPseudoElement t [s])
        else none
      | none =>
        if ss.any (s == ·) then some ss
        else if !isClass && ss.any Simple.isPseudoElement then none
        else some (insertBefore Simple.isPseudoElement s ss)
  | s =>
    if s.isId && ss.any (fun t => t.isId && !(t == s)) then none
    else
      match onlyOther? with
      | some t => if t.isUniversal then unifyElement t [s] else none
      | none => if ss.any (s == ·) then some ss else some (insertBefore Simple.isPseudo s ss)

/-- Two compound selectors brought together. -/
def unifyCompounds (ss ts : List Simple) : Option (List Simple) :=
  ss.foldlM (fun acc s => unifySimple s acc) ts

/-! ## Weaving -/

/-- A row of pieces. -/
abbrev Row := List Limb

/-- A row of a table of common subsequences, from the row before it. -/
def commonRow {α : Type} (select : α → Option α) :
    List α → List (Nat × List α) → Nat × List α → List (Nat × List α)
  | y :: ys, diagonal :: above :: prev, left =>
    let entry :=
      match select y with
      | some s => (diagonal.1 + 1, s :: diagonal.2)
      | none => if left.1 > above.1 then left else above
    left :: commonRow select ys (above :: prev) entry
  | _, _, left => [left]

/-- **The longest common subsequence**, where `select` says what two items have in
common. -/
def longestCommon {α : Type} (select : α → α → Option α) (xs ys : List α) : List α :=
  let start : List (Nat × List α) := List.replicate (ys.length + 1) (0, [])
  let table := xs.foldl (fun prev x => commonRow (select x) ys prev (0, [])) start
  ((table.getLast?).map (·.2.reverse)).getD []

/-- The items that two lists of equal ones have in common. -/
def sameSubsequence (a b : Row) : Row :=
  longestCommon (fun x y => if x == y then some x else none) a b

/-- The combinators at the front of both rows, if one of them goes on from the other. -/
def mergeFront (a b : Row) : Option (Row × Row × Row) :=
  let isSign (l : Limb) : Bool := !l.isCompound
  let (a₁, a₂) := (a.takeWhile isSign, a.dropWhile isSign)
  let (b₁, b₂) := (b.takeWhile isSign, b.dropWhile isSign)
  let common := sameSubsequence a₁ b₁
  if common == a₁ then some (b₁, a₂, b₂) else if common == b₁ then some (a₁, a₂, b₂) else none

/-- The last compound selector of a row that ends in one, and the row before it. The row
is given from its end. -/
def popCompound : Row → Option (List Simple × Row)
  | .compound ss :: r => some (ss, r)
  | _ => none

/-- Whether a compound selector is above another one. -/
def compoundIsAbove (ss ts : List Simple) : Bool := compoundAbove rowAbove ss ts []

/-- How two rows end that both have a combinator there, with what is left of them. The
rows are given from their ends. -/
def mergePair (c d : Combinator) (ss ts : List Simple) (a b : Row) :
    Option (List Row × Row × Row) :=
  let s : Limb := .compound ss
  let t : Limb := .compound ts
  let sign (c : Combinator) : Limb := .combinator c
  let unified? := unifyCompounds ss ts
  match c, d with
  | .following, .following =>
    if compoundIsAbove ss ts then some ([[t, sign .following]], a, b)
    else if compoundIsAbove ts ss then some ([[s, sign .following]], a, b)
    else
      let both :=
        [[s, sign .following, t, sign .following], [t, sign .following, s, sign .following]]
      let one := unified?.toList.map fun u => [.compound u, sign .following]
      some (both ++ one, a, b)
  | .following, .next => some (beside ss ts unified?, a, b)
  | .next, .following => some (beside ts ss unified?, a, b)
  | .child, .next | .child, .following => some ([[t, sign d]], sign .child :: s :: a, b)
  | .next, .child | .following, .child => some ([[s, sign c]], a, sign .child :: t :: b)
  | .next, .next | .child, .child =>
    unified?.map fun u => ([[.compound u, sign c]], a, b)
where
  /-- One compound selector somewhere before, the other one right before. -/
  beside (far near : List Simple) (unified? : Option (List Simple)) : List Row :=
    if compoundIsAbove far near then [[.compound near, .combinator .next]]
    else
      [.compound far, .combinator .following, .compound near, .combinator .next]
        :: unified?.toList.map fun u => [.compound u, .combinator .next]

/-- How two rows end, with what is left of them. The rows are given from their ends; the
first argument bounds their lengths. -/
def mergeBack : Nat → Row → Row → List (List Row) → Option (List (List Row) × Row × Row)
  | 0, _, _, _ => none
  | n + 1, a, b, acc =>
    let isSign (l : Limb) : Bool := !l.isCompound
    let signs₁ := a.takeWhile isSign
    let signs₂ := b.takeWhile isSign
    let a := a.dropWhile isSign
    let b := b.dropWhile isSign
    match signs₁, signs₂ with
    | [], [] => some (acc, a, b)
    | [.combinator c], [.combinator d] =>
      match popCompound a, popCompound b with
      | some (ss, a), some (ts, b) =>
        match mergePair c d ss ts a b with
        | some (choice, a, b) => mergeBack n a b (choice :: acc)
        | none => none
      | _, _ => none
    | [.combinator c], [] =>
      match popCompound a with
      | some (ss, a) => mergeBack n a (dropCovered c ss b) ([[.compound ss, .combinator c]] :: acc)
      | none => none
    | [], [.combinator d] =>
      match popCompound b with
      | some (ts, b) => mergeBack n (dropCovered d ts a) b ([[.compound ts, .combinator d]] :: acc)
      | none => none
    | _, _ =>
      let common := sameSubsequence signs₁ signs₂
      if common == signs₁ then some ([signs₂.reverse] :: acc, a, b)
      else if common == signs₂ then some ([signs₁.reverse] :: acc, a, b)
      else none
where
  /-- A parent says nothing more when the other row names it more exactly. -/
  dropCovered (c : Combinator) (ss : List Simple) (row : Row) : Row :=
    match c, row with
    | .child, .compound ts :: r => if compoundIsAbove ts ss then r else row
    | _, _ => row

/-- Whether a compound selector is of the root. -/
def hasRoot (ss : List Simple) : Bool :=
  ss.any fun s =>
    match s with
    | .pseudo n true _ _ _ => Text.lowerAscii n == ("root" : Text)
    | _ => false

/-- The compound selector of the root at the front of a row, and the rest of the row. -/
def takeRoot (row : Row) : Option (List Simple) × Row :=
  match row with
  | .compound ss :: r => if hasRoot ss then (some ss, r) else (none, row)
  | _ => (none, row)

/-- Pieces that combinators hold together. -/
def groupsOf : Row → List Row
  | [] => []
  | l :: r =>
    match groupsOf r with
    | [] => [[l]]
    | g :: gs =>
      let joins := !l.isCompound || (g.head?).any fun x => !x.isCompound
      if joins then (l :: g) :: gs else [l] :: g :: gs

/-- Whether two rows name something that there is only one of. -/
def mustUnify (a b : Row) : Bool :=
  let unique (row : Row) : List Simple :=
    (row.flatMap Limb.simples).filter fun s => s.isId || s.isPseudoElement
  (unique a).any fun s => (unique b).any (s == ·)

/-- The groups of two rows up to where both are done, in both orders. -/
def chunks (done : List Row → Bool) (a b : List Row) : List (List Row) × List Row × List Row :=
  let (a₁, a₂) := splitDone a.length a
  let (b₁, b₂) := splitDone b.length b
  let choices :=
    match a₁, b₁ with
    | [], [] => []
    | [], c => [c]
    | c, [] => [c]
    | c, d => [c ++ d, d ++ c]
  (choices, a₂, b₂)
where
  /-- The groups before the place where a test holds, and those after it. -/
  splitDone : Nat → List Row → List Row × List Row
    | 0, gs => ([], gs)
    | n + 1, gs =>
      if done gs then ([], gs)
      else
        match gs with
        | [] => ([], [])
        | g :: r =>
          let (x, y) := splitDone n r
          (g :: x, y)

/-- **Rows brought together**, up to some depth. -/
def unifyRowsWithin : Nat → List Row → Option (List Row)
  | 0, _ => none
  | n + 1, rows =>
    match rows with
    | [_] => some rows
    | _ => do
      let bases ← rows.mapM fun row =>
        match row.getLast? with
        | some (.compound ss) => some ss
        | _ => none
      let base ←
        match bases with
        | [] => none
        | b :: bs => bs.foldlM (fun acc ss => ss.foldlM (fun acc s => unifySimple s acc) acc) b
      let fronts := rows.map List.dropLast
      let fronts :=
        match fronts.reverse with
        | last :: r => ((last ++ [Limb.compound base]) :: r).reverse
        | [] => []
      return weaveBy (unifyRowsWithin n) fronts
where
  /-- The ways that two rows stand before the same thing. -/
  weaveParents (unify : List Row → Option (List Row)) (a b : Row) : Option (List Row) := do
    let (front, a, b) ← mergeFront a b
    let (back, a, b) ← mergeBack (a.length + b.length + 2) a.reverse b.reverse []
    let (root₁, a) := takeRoot a.reverse
    let (root₂, b) := takeRoot b.reverse
    let (a, b) ←
      match root₁, root₂ with
      | some r, some s => do
        let root ← unifyCompounds r s
        pure (Limb.compound root :: a, Limb.compound root :: b)
      | some r, none => some (Limb.compound r :: a, Limb.compound r :: b)
      | none, some s => some (Limb.compound s :: a, Limb.compound s :: b)
      | none, none => some (a, b)
    let groups₁ := groupsOf a
    let groups₂ := groupsOf b
    let select (g h : Row) : Option Row :=
      if g == h then some g
      else if !((g.head?).any Limb.isCompound && (h.head?).any Limb.isCompound) then none
      else if rowAboveBefore g h then some h
      else if rowAboveBefore h g then some g
      else if !mustUnify g h then none
      else
        match unify [g, h] with
        | some [u] => some u
        | _ => none
    let common := longestCommon select groups₂ groups₁
    let (choices, groups₁, groups₂) :=
      common.foldl
        (fun (acc, gs, hs) g =>
          let done (gs : List Row) : Bool := (gs.head?).all fun x => rowAboveBefore x g
          let (c, gs, hs) := chunks done gs hs
          (acc ++ [c.map List.flatten, [g]], gs.drop 1, hs.drop 1))
        ([[front]], groups₁, groups₂)
    let (last, _, _) := chunks List.isEmpty groups₁ groups₂
    let all := choices ++ [last.map List.flatten] ++ back
    return (pathsThrough (all.filter fun c => !c.isEmpty)).map List.flatten
  /-- The ways that rows stand before each other. -/
  weaveBy (unify : List Row → Option (List Row)) (rows : List Row) : List Row :=
    match rows with
    | [] => []
    | first :: rest =>
      rest.foldl
        (fun fronts row =>
          match row.getLast? with
          | none => fronts
          | some target =>
            if row.length = 1 then fronts.map (· ++ [target])
            else
              fronts.flatMap fun f =>
                ((weaveParents unify f row.dropLast).getD []).map (· ++ [target]))
        [first]

/-- **Rows brought together**, in all the ways there are. -/
def unifyRows (rows : List Row) : Option (List Row) := unifyRowsWithin nestingLimit rows

/-- **The ways that rows stand before each other.** -/
def weave (rows : List Row) : List Row := unifyRowsWithin.weaveBy unifyRows rows

/-- Two selectors brought together. -/
def Selector.unify (s t : Selector) : Option Selector :=
  let all := s.flatMap fun c => t.flatMap fun d =>
    ((unifyRows [c.limbs, d.limbs]).getD []).map fun row => Complex.of row false
  if all.isEmpty then none else some all

end ModuleHooks.Sass
