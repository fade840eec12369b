import ModuleHooks.Config.Basic
import ModuleHooks.Css.Piece
import ModuleHooks.Hash.Sip
/-!
# Scoping

A template says how a local name becomes a scoped one. Each local name that is written
is exported with its scoped name, and with the names that its class is composed with: this
is what a scoped stylesheet offers to the module that imports it.
-/

namespace ModuleHooks.Css

/-! ## Exports -/

/-- **A name that a class is composed with.** -/
inductive Reference where
  /-- A class of the same file, by its scoped name. -/
  | local (name : Text)
  /-- A global class. -/
  | global (name : Text)
  /-- A class of another file. -/
  | dependency (name specifier : Text)
  deriving DecidableEq, Repr

/-- The name that is referred to. -/
def Reference.name : Reference → Text
  | .local name => name
  | .global name => name
  | .dependency name _ => name

/-- **An export.** -/
structure Export where
  /-- The scoped name. -/
  name : Text
  /-- The names composed with it, in order. -/
  composes : List Reference := []
  deriving DecidableEq, Repr

/-- The exports of a stylesheet under their local names. -/
abbrev Exports := List (Text × Export)

/-! ## Templates -/

/-- **A part of a template.** -/
inductive Segment where
  | literal (t : Text)
  /-- The name of the file. -/
  | name
  /-- The local name. -/
  | local
  /-- The mark of the path of the file. -/
  | hash
  deriving DecidableEq, Repr

/-- **How names of one file are scoped.** -/
structure Scoping where
  template : List Segment
  filename : Path
  deriving DecidableEq, Repr

namespace Scoping

/-- The segment of a name between square brackets. -/
def segmentOf? (name : Text) : Option Segment :=
  if name = ("name" : Text) then some .name
  else if name = ("local" : Text) then some .local
  else if name = ("hash" : Text) then some .hash
  else none

/-- The segments of a template. The first argument bounds their number; what is not
understood stands for itself. -/
def segments : Nat → Text → List Segment
  | 0, _ => []
  | _ + 1, [] => []
  | n + 1, c :: r =>
    let literal := (c :: r).takeWhile (· ≠ '[')
    if literal ≠ [] then .literal literal :: segments n ((c :: r).drop literal.length)
    else
      let name := r.takeWhile (· ≠ ']')
      match segmentOf? name with
      | some s => s :: segments n (r.drop (name.length + 1))
      | none => .literal ['['] :: segments n r

/-- The scoping of a file. -/
def ofNaming (naming : ClassNaming) (filename : Path) : Scoping :=
  ⟨segments naming.template.length naming.template, filename⟩

/-- The name of the file, with hyphens for dots. -/
def fileName (s : Scoping) : Text :=
  ((Path.stem? s.filename).getD []).map fun c => if c = '.' then '-' else c

/-- What a segment stands for. -/
def segment (s : Scoping) (name : Text) : Segment → Text
  | .literal t => t
  | .name => s.fileName
  | .local => name
  | .hash => Hash.mark s.filename

/-- **The scoped name of a local name.** -/
def scopedName (s : Scoping) (name : Text) : Text := s.template.flatMap (s.segment name)

/-- A scoped name, written as an identifier: each segment by itself. -/
def writeScoped (s : Scoping) (name : Text) : Text :=
  match s.template.map (s.segment name) with
  | [] => []
  | t :: r => writeIdent t ++ r.flatMap writeName

/-- Whether the template ends with the local name. -/
def endsWithLocal (s : Scoping) : Bool := s.template.getLast? == some .local

/-- Exports with a local name among them. -/
def addLocal (s : Scoping) (name : Text) (exports : Exports) : Exports :=
  if exports.any (·.1 == name) then exports else exports ++ [(name, { name := s.scopedName name })]

/-- What a name in a composition refers to. -/
def reference (s : Scoping) (name : Text) (source : Option Text) (isGlobal : Bool) : Reference :=
  if isGlobal then .global name
  else
    match source with
    | some file => .dependency name file
    | none => .local (s.scopedName name)

/-- Exports with one more name that a class is composed with. -/
def addReference (name : Text) (r : Reference) (exports : Exports) : Exports :=
  exports.map fun e =>
    if e.1 = name && !e.2.composes.contains r then
      (e.1, { e.2 with composes := e.2.composes ++ [r] })
    else e

/-- The text of a piece, and the exports after it. -/
def piece (s : Option Scoping) (exports : Exports) : Piece → Except Fault (Text × Exports)
  | .text t => .ok (t, exports)
  | .lineBreak columns => .ok ('\n' :: List.replicate columns ' ', exports)
  | .local name =>
    match s with
    | some s => .ok (s.writeScoped name, s.addLocal name exports)
    | none => .ok (writeIdent name, exports)
  | .gridLine name =>
    match s with
    | some s =>
      if s.endsWithLocal then .ok (s.writeScoped name, s.addLocal name exports)
      else .error ⟨.gridPattern, {}⟩
    | none => .ok (writeIdent name, exports)
  | .composition of names source isGlobal =>
    match s with
    | some s =>
      .ok ([], names.foldl (fun l name => addReference of (s.reference name source isGlobal) l)
        exports)
    | none => .ok ([], exports)
  | .fault f => .error f

/-- **What is written, as text, with the exports of the names in it.** -/
def render (s : Option Scoping) (exports : Exports) :
    Written → Except Fault (List Text × Exports)
  | [] => .ok ([], exports)
  | p :: r =>
    match piece s exports p with
    | .error f => .error f
    | .ok (t, exports) =>
      match render s exports r with
      | .error f => .error f
      | .ok (ts, exports) => .ok (t :: ts, exports)

end Scoping

end ModuleHooks.Css
