import ModuleHooks.Path.Basic
import ModuleHooks.Url.Parse
/-!
# Files and their URLs

An absolute path has a URL: each of its components becomes one encoded segment. A URL
without a foreign host has a path: each of its segments is decoded and written after a
slash. Going from a path to its URL and back forgets what components forget, and nothing
else.
-/

namespace ModuleHooks.Url

/-- **The URL of an absolute path.** Relative paths have none. A `..` stays a segment. -/
def ofFilePath? (p : Path) : Option Url :=
  if Path.isAbsolute p then
    match (Path.components p).drop 1 with
    | [] => some (fileUrl (.domain []) [[]])
    | names =>
      some (fileUrl (.domain [])
        (names.map fun c => Percent.encode Percent.fileNameSet c.text))
  else none

/-- Whether a path ends in a drive letter, which is a directory. -/
def endsInDrive (p : Path) : Bool :=
  match p.reverse with
  | b :: a :: _ :: _ => a.isAlpha && (b == ':' || b == '|')
  | _ => false

/-- **The path of a URL.** Opaque URLs and URLs of foreign hosts have none. Bytes that are no
text are replaced, because paths are texts. -/
def toFilePath? (u : Url) : Option Path :=
  match u.path with
  | .opaqueText _ => none
  | .segments [] => none
  | .segments l =>
    if u.host?.isNone || u.host? == some (.domain "localhost") then
      let p := l.flatMap fun s => '/' :: Percent.decode s
      some (if endsInDrive p then p ++ ['/'] else p)
    else none

end ModuleHooks.Url
