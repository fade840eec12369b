import ModuleHooks.Text.Basic
/-!
# Paths

A path is a text whose segments are separated by slashes. Two views of it are used
side by side. The *components* forget what does not matter: repeated slashes, a slash
at the end, and every segment `.` except one at the very front. The *text* remembers
everything, and operations that give back a part of a path (`parent?`,
`withExtension`) give back that part as it was written.

To a system a path is a sequence of bytes, and not all of these are texts. The paths that
are none are left out: what is said of all paths is said of those in UTF-8.
-/

namespace ModuleHooks

/-- **A path**, as it is written. -/
abbrev Path := Text

namespace Path

/-- One component of a path. -/
inductive Component where
  /-- The slash at the front of an absolute path. -/
  | root
  /-- A `.` at the front of a relative path. -/
  | current
  /-- A `..`. -/
  | parent
  /-- Any other segment. -/
  | normal (name : Text)
  deriving DecidableEq, Repr

/-- The text of a component. -/
def Component.text : Component → Text
  | .root => "/"
  | .current => "."
  | .parent => ".."
  | .normal name => name

/-- Whether a path is absolute. -/
def isAbsolute : Path → Bool
  | '/' :: _ => true
  | _ => false

/-- Whether a segment has no component of its own: it is empty or `.`. -/
def isIdle (segment : Text) : Bool := segment == [] || segment == ['.']

/-- The component of a segment that is not at the front. -/
def Component.ofSegment? (segment : Text) : Option Component :=
  if isIdle segment then none
  else if segment = ['.', '.'] then some .parent
  else some (.normal segment)

/-- What stands before the ordinary segments of a path. -/
inductive Front where
  /-- Nothing: the path is relative. -/
  | none
  /-- The slash of an absolute path. -/
  | root
  /-- A `.` segment of a relative path. -/
  | current
  deriving DecidableEq, Repr

/-- The front of a path and the segments after it, as they are written. -/
def dissect (p : Path) : Front × List Text :=
  match p with
  | '/' :: r => (.root, Text.splitOn '/' r)
  | _ =>
    match Text.splitOn '/' p with
    | ['.'] :: segments => (.current, segments)
    | segments => (.none, segments)

/-- The path with the given front and segments. -/
def assemble : Front → List Text → Path
  | .none, segments => Text.join "/" segments
  | .root, segments => '/' :: Text.join "/" segments
  | .current, [] => "."
  | .current, segments => '.' :: '/' :: Text.join "/" segments

/-- The component of a front. -/
def Front.components : Front → List Component
  | .none => []
  | .root => [.root]
  | .current => [.current]

/-- **The components of a path.** -/
def components (p : Path) : List Component :=
  let (front, segments) := dissect p
  front.components ++ segments.filterMap Component.ofSegment?

/-- The segments without the idle ones at the end. -/
def dropIdleEnd (segments : List Text) : List Text :=
  (segments.reverse.dropWhile isIdle).reverse

/-- **The path without its last component**, as it is written. The root and the empty
path have none. -/
def parent? (p : Path) : Option Path :=
  let (front, segments) := dissect p
  match dropIdleEnd segments with
  | [] =>
    match front with
    | .current => some []
    | _ => none
  | kept => some (assemble front (dropIdleEnd kept.dropLast))

/-- **The file name**: the last component, when it is an ordinary one. -/
def fileName? (p : Path) : Option Text :=
  match (components p).getLast? with
  | some (.normal name) => some name
  | _ => none

/-- A file name parted at its last dot. A dot at the very front does not part it. -/
def partName (name : Text) : Text × Option Text :=
  match Text.splitLast? '.' name with
  | none => (name, none)
  | some ([], _) => (name, none)
  | some (stem, extension) => (stem, some extension)

/-- **The stem**: the file name without its extension. -/
def stem? (p : Path) : Option Text := (fileName? p).map fun name => (partName name).1

/-- **The extension** of the file name, without the dot. -/
def extension? (p : Path) : Option Text :=
  (fileName? p).bind fun name => (partName name).2

/-- **Appends a path to a directory.** An absolute path replaces the directory. -/
def join (dir p : Path) : Path :=
  if isAbsolute p then p
  else if dir = [] || dir.getLast? == some '/' then dir ++ p
  else dir ++ '/' :: p

/-- The text of the path up to the end of its file name's stem, followed by an
extension. A path without a file name stays as it is. -/
def replaceAfterStem (p : Path) (extension : Text) : Path :=
  match stem? p with
  | none => p
  | some stem =>
    let (front, segments) := dissect p
    assemble front ((dropIdleEnd segments).dropLast ++ [stem ++ '.' :: extension])

/-- **The path with another extension.** The old extension is cut from the end of the
text before the stem is looked for, so that a name that ends where the extension began,
such as `..`, is left without one. -/
def withExtension (p : Path) (extension : Text) : Path :=
  match extension? p with
  | none => replaceAfterStem p extension
  | some old => replaceAfterStem (p.take (p.length - old.length)) extension

/-- One step of lexical normalisation on a stack of names, innermost first. -/
def normaliseStep (stack : List Text) : Component → List Text
  | .root => []
  | .current => stack
  | .parent => stack.drop 1
  | .normal name => name :: stack

/-- **The names of an absolute path after lexical normalisation**, outermost first:
`.` and repeated slashes vanish and `..` takes away the name before it. -/
def normalNames (p : Path) : List Text :=
  ((components p).foldl normaliseStep []).reverse

/-- The lexically normalised form of an absolute path. -/
def normalise (p : Path) : Path := '/' :: Text.join "/" (normalNames p)

end Path

end ModuleHooks
