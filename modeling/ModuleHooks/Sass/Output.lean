import ModuleHooks.Sass.Extension
import ModuleHooks.Sass.Media
import ModuleHooks.Sass.Value
/-!
# What comes out

The rules that come out make a tree. It is kept as a list of nodes with numbers, because
rules are put into it at several places at once: a rule inside of another one goes beside
it, and what is taken out of a rule goes further up.

The writer goes through the tree at the end. A rule for which nothing would be written is
left out. An empty line stands only after a style rule that nothing is around, together
with what came out of it.
-/

namespace ModuleHooks.Sass

/-- **What a node of the tree is.** -/
inductive Piece where
  /-- The whole sheet. -/
  | root
  /-- A style rule with the number of its selector. -/
  | rule (selector : Nat)
  | style (name : Text) (value : Value) (isCustom : Bool) (span : Span)
  | media (queries : List MediaQuery)
  | supports (condition : Text)
  | unknown (name params : Text) (hasBlock : Bool)
  /-- A place of an animation. -/
  | keyframe (places : List Text)
  | comment (text : Text) (column : Nat)
  | import (url : Text) (modifiers : Option Text)

/-- Whether a piece is a style rule. -/
def Piece.isRule : Piece → Bool
  | .rule _ => true
  | _ => false

/-- A node of the tree. -/
structure Branch where
  /-- What the node is. -/
  piece : Piece
  /-- The node around it. -/
  parent : Nat
  /-- The nodes inside, the last one first. -/
  children : List Nat := []
  /-- A group of rules ends here. -/
  endsGroup : Bool := false

instance : Inhabited Branch := ⟨⟨.root, 0, [], false⟩⟩

/-- **The tree.** The node with the number 0 is the whole sheet. -/
structure Tree where
  /-- The nodes. -/
  nodes : Array Branch := #[⟨.root, 0, [], false⟩]

namespace Tree

/-- A node. -/
def node (t : Tree) (i : Nat) : Branch := t.nodes[i]?.getD default

/-- A node changed. -/
def change (t : Tree) (i : Nat) (f : Branch → Branch) : Tree :=
  { t with nodes := t.nodes.modify i f }

/-- **Puts a piece into a node**, at the end, and gives its number. -/
def add (t : Tree) (parent : Nat) (p : Piece) : Nat × Tree :=
  let i := t.nodes.size
  let nodes := t.nodes.push { piece := p, parent := parent }
  (i, { t with nodes := nodes.modify parent fun b => { b with children := i :: b.children } })

/-- Whether something comes after a node in the node around it. -/
def hasNext (t : Tree) (i : Nat) : Bool :=
  i != 0 && ((t.node (t.node i).parent).children.head?).any (· != i)

/-- The node, or the first one around it, for which a test does not hold. The first
argument bounds the depth. -/
def climb (t : Tree) (test : Piece → Bool) : Nat → Nat → Nat
  | 0, i => i
  | n + 1, i => if i != 0 && test (t.node i).piece then climb t test n (t.node i).parent else i

/-- **Puts a piece into a node or further up**, beyond the pieces for which a test holds.
Where something comes after the node that was found, the piece goes into a copy of it. -/
def addThrough (t : Tree) (parent : Nat) (p : Piece) (test : Piece → Bool) : Nat × Tree :=
  if parent = 0 then t.add 0 p
  else
    let place := t.climb test t.nodes.size parent
    if t.hasNext place then
      let b := t.node place
      let (copy, t) := t.add b.parent b.piece
      t.add copy p
    else t.add place p

/-- Marks the last piece in a node as the end of a group, if it is a rule. -/
def endGroup (t : Tree) (parent : Nat) : Tree :=
  match (t.node parent).children with
  | last :: _ =>
    t.change last fun b =>
      match b.piece with
      | .rule _ | .media _ | .supports _ | .unknown .. => { b with endsGroup := true }
      | _ => b
  | [] => t

end Tree

/-- **What comes out**, with everything in its place. -/
inductive Css where
  | node (piece : Piece) (endsGroup : Bool) (children : List Css)

namespace Css

/-- A node with all that is in it. The first argument bounds the depth. -/
def ofTree (t : Tree) : Nat → Nat → Css
  | 0, i => .node (t.node i).piece (t.node i).endsGroup []
  | n + 1, i =>
    let b := t.node i
    .node b.piece b.endsGroup (b.children.reverse.map (ofTree t n))

mutual

/-- Whether nothing is written for a node. -/
def isHidden (selectors : Nat → Selector) : Css → Bool
  | .node p _ children =>
    match p with
    | .rule s => allHidden (selectors s) || allNodesHidden selectors children
    | .style _ v _ _ => v.isBlank
    | .media _ | .supports _ | .keyframe _ | .root => allNodesHidden selectors children
    | .unknown .. | .comment .. | .import .. => false

/-- Whether nothing is written for some nodes. -/
def allNodesHidden (selectors : Nat → Selector) : List Css → Bool
  | [] => true
  | c :: r => isHidden selectors c && allNodesHidden selectors r

end

/-- Whether a semicolon follows a node. -/
def wantsSemicolon : Css → Bool
  | .node (.style ..) _ _ => true
  | .node (.import ..) _ _ => true
  | .node (.unknown _ _ hasBlock) _ _ => !hasBlock
  | _ => false

/-- A comment; its lines after the first are moved by the column that it begins at. -/
def writeComment (text : Text) (column : Nat) : Text :=
  let lines := Text.splitOn '\n' text
  let lines := if lines.getLast? == some [] then lines.dropLast else lines
  let isBlank (c : Char) : Bool := c == ' ' || c == '\t'
  match lines with
  | [] => []
  | first :: rest =>
    let rest := rest.map fun line =>
      let inner := Text.trimStart isBlank line
      List.replicate (line.length - inner.length - column) ' ' ++ inner
    Text.join ['\n'] (Text.trimStart isBlank first :: rest)

/-- What is written for a declaration. -/
def writeStyle (name : Text) (v : Value) (isCustom : Bool) (span front : Span) :
    Except Fault Text :=
  match v.show false with
  | .ok t => .ok (name ++ ':' :: (if isCustom then [] else [' ']) ++ t)
  | .error e => .error (.misplaced e.message (if e.isNumber then front else span))

mutual

/-- **A node, written.** -/
def write (selectors : Nat → Selector) (front : Span) (depth : Nat) : Css → Except Fault Text
  | .node p _ children => do
    let margin : Text := List.replicate (2 * depth) ' '
    let block (head : Text) : Except Fault Text := do
      return margin ++ head ++ " \x7b\n".toList ++ (← writeNodes selectors front (depth + 1) children)
        ++ margin ++ ['\x7d']
    match p with
    | .root => return []
    | .rule s => block (Selector.write (selectors s))
    | .media queries => block ("@media ".toList ++ Text.join ", " (queries.map MediaQuery.write))
    | .supports c => block ("@supports ".toList ++ c)
    | .keyframe places => block (Text.join ", " places)
    | .style name v isCustom span => return margin ++ (← writeStyle name v isCustom span front)
    | .comment text column => return margin ++ writeComment text column
    | .import url modifiers =>
      return margin ++ "@import ".toList ++ url ++ (modifiers.map (' ' :: ·)).getD []
    | .unknown name params hasBlock =>
      let head := '@' :: name ++ if params.isEmpty then [] else ' ' :: params
      if !hasBlock then return margin ++ head
      else if allNodesHidden selectors children then return margin ++ head ++ " \x7b\x7d".toList
      else block head

/-- The nodes of a block, each on its lines. -/
def writeNodes (selectors : Nat → Selector) (front : Span) (depth : Nat) :
    List Css → Except Fault Text
  | [] => return []
  | c :: r => do
    if isHidden selectors c then writeNodes selectors front depth r
    else
      let t ← write selectors front depth c
      let mark : Text := if wantsSemicolon c then [';', '\n'] else ['\n']
      return t ++ mark ++ (← writeNodes selectors front depth r)

end

/-- The nodes that nothing is around, with an empty line after each group. -/
def writeGroups (selectors : Nat → Selector) (front : Span) (afterGroup : Bool) :
    List Css → Except Fault Text
  | [] => return []
  | .node p endsGroup children :: r => do
    let c : Css := .node p endsGroup children
    if isHidden selectors c then writeGroups selectors front afterGroup r
    else
      let t ← write selectors front 0 c
      let mark : Text := if wantsSemicolon c then [';', '\n'] else ['\n']
      return (if afterGroup then ['\n'] else []) ++ t ++ mark
        ++ (← writeGroups selectors front endsGroup r)

/-- **The style sheet of some nodes.** A sheet with other characters than those of ASCII
begins with its encoding. -/
def writeSheet (selectors : Nat → Selector) (front : Span) (nodes : List Css) :
    Except Fault Text := do
  let t ← writeGroups selectors front false nodes
  if t.any fun c => c.toNat ≥ 128 then return "@charset \"UTF-8\";\n".toList ++ t else return t

end Css

end ModuleHooks.Sass
