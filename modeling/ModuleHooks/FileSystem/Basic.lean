import ModuleHooks.Path.Basic
import ModuleHooks.Text.Utf8
/-!
# File systems

A file system is a value: a list of nodes, each under the names that lead to it from
the root, together with the directory that relative paths start from. Looking a path up
walks it name by name. A symbolic link replaces the rest of the walk by its target, and
`..` goes to the directory above the one the walk has *arrived* at, so that a path may
mean something else than its lexical normalisation.
-/

namespace ModuleHooks

/-- What stands at a place of a file system. -/
inductive Node where
  /-- A regular file with its bytes. -/
  | file (content : List UInt8)
  /-- A directory. -/
  | directory
  /-- A symbolic link with the text of its target. -/
  | link (target : Text)
  deriving DecidableEq, Repr

/-- Why the system refuses to read or write. -/
inductive SystemError where
  | notFound
  | notADirectory
  | isADirectory
  | alreadyExists
  | nameTooLong
  | tooManyLinks
  | nulInName
  | malformedText
  deriving DecidableEq, Repr

/-- The system's own wording. -/
def SystemError.message : SystemError → Text
  | .notFound => "No such file or directory (os error 2)"
  | .notADirectory => "Not a directory (os error 20)"
  | .isADirectory => "Is a directory (os error 21)"
  | .alreadyExists => "File exists (os error 17)"
  | .nameTooLong => "File name too long (os error 36)"
  | .tooManyLinks => "Too many levels of symbolic links (os error 40)"
  | .nulInName => "file name contained an unexpected NUL byte"
  | .malformedText => "stream did not contain valid UTF-8"

/-- **A file system** seen from a working directory. -/
structure FileSystem where
  /-- The nodes, each under its names from the root. -/
  nodes : List (List Text × Node) := []
  /-- The names of the working directory. -/
  workingDirectory : List Text := []
  deriving Repr

namespace FileSystem

/-- A place of the file system: the names that lead to it from the root. -/
abbrev Place := List Text

/-- The node at a place. The root is always a directory. -/
def nodeAt? (fs : FileSystem) (place : Place) : Option Node :=
  if place = [] then some .directory
  else (fs.nodes.find? fun n => n.1 == place).map (·.2)

/-- Whether a place is a directory. -/
def isDirectoryAt (fs : FileSystem) (place : Place) : Bool :=
  fs.nodeAt? place == some .directory

/-- What comes of walking along a path. -/
inductive Walk where
  /-- The walk arrived. -/
  | arrived (place : Place)
  /-- The walk stopped. -/
  | stopped (why : SystemError)
  /-- The walk met a link: it goes on from a place along other segments. -/
  | detour (place : Place) (segments : List Text)

/-- Walks from a place along segments until the end, a failure or a link. -/
def walk (fs : FileSystem) : Place → List Text → Walk
  | place, [] => .arrived place
  | place, segment :: rest =>
    if !fs.isDirectoryAt place then .stopped .notADirectory
    else if Path.isIdle segment then walk fs place rest
    else if segment = ['.', '.'] then walk fs place.dropLast rest
    else if Text.utf8Length segment > 255 then .stopped .nameTooLong
    else
      match fs.nodeAt? (place ++ [segment]) with
      | none => .stopped .notFound
      | some (.link target) =>
        if target = [] then .stopped .notFound
        else if Path.isAbsolute target then .detour [] (Text.splitOn '/' target ++ rest)
        else .detour place (Text.splitOn '/' target ++ rest)
      | some _ => walk fs (place ++ [segment]) rest

/-- Follows a walk through at most `n` links. -/
def follow (fs : FileSystem) : Nat → Place → List Text → Except SystemError Place
  | 0, _, _ => .error .tooManyLinks
  | n + 1, place, segments =>
    match fs.walk place segments with
    | .arrived place => .ok place
    | .stopped why => .error why
    | .detour place segments => follow fs n place segments

/-- **The place a path leads to**, links followed. -/
def locate (fs : FileSystem) (p : Path) : Except SystemError Place :=
  if List.elem '\x00' p then .error .nulInName
  else if p = [] then .error .notFound
  else if Text.utf8Length p > 4095 then .error .nameTooLong
  else
    fs.follow 41 (if Path.isAbsolute p then [] else fs.workingDirectory)
      (Text.splitOn '/' p)

/-- **The node a path leads to**, links followed. -/
def node? (fs : FileSystem) (p : Path) : Option Node :=
  match fs.locate p with
  | .ok place => fs.nodeAt? place
  | .error _ => none

/-- Whether the path leads to a regular file. -/
def isFile (fs : FileSystem) (p : Path) : Bool :=
  match fs.node? p with
  | some (.file _) => true
  | _ => false

/-- Whether the path leads to a directory. -/
def isDirectory (fs : FileSystem) (p : Path) : Bool :=
  match fs.node? p with
  | some .directory => true
  | _ => false

/-- The bytes of the file a path leads to. -/
def readBytes (fs : FileSystem) (p : Path) : Except SystemError (List UInt8) :=
  match fs.locate p with
  | .error why => .error why
  | .ok place =>
    match fs.nodeAt? place with
    | some (.file content) => .ok content
    | some .directory => .error .isADirectory
    | _ => .error .notFound

/-- **The text of the file a path leads to.** -/
def readText (fs : FileSystem) (p : Path) : Except SystemError Text :=
  match fs.readBytes p with
  | .error why => .error why
  | .ok bytes =>
    match Text.decodeUtf8? bytes with
    | some t => .ok t
    | none => .error .malformedText

/-- The working directory as a path. -/
def workingPath (fs : FileSystem) : Path := '/' :: Text.join "/" fs.workingDirectory

/-- The file system with a node put at a place, in place of what was there. -/
def put (fs : FileSystem) (place : Place) (node : Node) : FileSystem :=
  { fs with nodes := (place, node) :: fs.nodes.filter fun n => n.1 != place }

/-- The file system with directories at every place above the given one where nothing
stands yet. -/
def makeParents (fs : FileSystem) (place : Place) : FileSystem :=
  (List.range place.length).foldl
    (fun fs n =>
      let above := place.take n
      if (fs.nodeAt? above).isSome then fs else fs.put above .directory)
    fs

/-- The file system with a node at a path, and the directories that lead to it. -/
def plant (fs : FileSystem) (p : Path) (node : Node) : FileSystem :=
  let place := Path.normalNames p
  (fs.makeParents place).put place node

/-- The file system without a path and all that is below it. -/
def remove (fs : FileSystem) (p : Path) : FileSystem :=
  let place := Path.normalNames p
  { fs with nodes := fs.nodes.filter fun n => !place.isPrefixOf n.1 }

/-- **Writes a file.** The directory must be there. -/
def write (fs : FileSystem) (p : Path) (content : Text) : Except SystemError FileSystem :=
  match fs.locate p with
  | .ok place =>
    match fs.nodeAt? place with
    | some .directory => .error .isADirectory
    | _ => .ok (fs.put place (.file (Text.utf8 content)))
  | .error .notFound =>
    match Path.parent? p, Path.fileName? p with
    | some dir, some name =>
      if p.getLast? == some '/' then .error .isADirectory
      else
        match fs.locate (if dir = [] then "." else dir) with
        | .error why => .error why
        | .ok place =>
          if fs.isDirectoryAt place then
            .ok (fs.put (place ++ [name]) (.file (Text.utf8 content)))
          else .error .notADirectory
    | _, _ => .error .notFound
  | .error why => .error why

/-- The file system seen from another directory, links followed. A path that leads to no
directory changes nothing. -/
def enter (fs : FileSystem) (p : Path) : FileSystem :=
  match fs.locate p with
  | .ok place => if fs.isDirectoryAt place then { fs with workingDirectory := place } else fs
  | .error _ => fs

end FileSystem

end ModuleHooks
