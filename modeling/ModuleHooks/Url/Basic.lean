import ModuleHooks.Url.Host
/-!
# URLs

A URL is kept as the record of its parts. Its path is either a list of segments, each
in encoded form, or, for URLs such as `data:…` that nothing can be relative to, an
opaque text. `Url.render` is the one text of a URL.
-/

namespace ModuleHooks

/-- **Who serves a URL.** -/
structure Authority where
  /-- The user name, encoded. -/
  username : Text := []
  /-- The password, encoded. -/
  password : Option Text := none
  /-- The host. -/
  host : Host := .domain []
  /-- The port, when it is not the scheme's own. -/
  port : Option Nat := none
  deriving DecidableEq, Repr

/-- **The path of a URL.** -/
inductive UrlPath where
  /-- A path that is one text. -/
  | opaqueText (text : Text)
  /-- A path of segments, each of which is written after a slash. -/
  | segments (list : List Text)
  deriving DecidableEq, Repr

/-- **A URL.** -/
structure Url where
  /-- The scheme, in lower case. -/
  scheme : Text
  /-- What follows `//`, if anything does. -/
  authority : Option Authority := none
  /-- The path. -/
  path : UrlPath := .segments []
  /-- The query, without its question mark. -/
  query : Option Text := none
  /-- The fragment, without its number sign. -/
  fragment : Option Text := none
  deriving DecidableEq, Repr

namespace Url

/-- The port of a scheme. -/
def defaultPort? (scheme : Text) : Option Nat :=
  if scheme = ("http" : Text) || scheme = ("ws" : Text) then some 80
  else if scheme = ("https" : Text) || scheme = ("wss" : Text) then some 443
  else if scheme = ("ftp" : Text) then some 21
  else none

/-- Whether URLs of the scheme always have a path, take backslashes for slashes and
need a host (files aside). -/
def isSpecial (scheme : Text) : Bool :=
  scheme == ("file" : Text) || (defaultPort? scheme).isSome

/-- Whether the scheme is that of files. -/
def isFileScheme (scheme : Text) : Bool := scheme == ("file" : Text)

/-- The text of an authority. -/
def renderAuthority (a : Authority) : Text :=
  let user :=
    match a.username, a.password with
    | [], none => []
    | name, none => name ++ ['@']
    | name, some password => name ++ ':' :: password ++ ['@']
  user ++ a.host.render ++
    match a.port with
    | none => []
    | some n => ':' :: Text.ofNat n

/-- The text of a path. -/
def renderPath : UrlPath → Text
  | .opaqueText t => t
  | .segments l => l.flatMap fun s => '/' :: s

/-- What stands between the scheme and the path. A path that begins with two slashes
is kept apart from an authority by `/.`. -/
def renderFront (u : Url) : Text :=
  match u.authority with
  | some a => '/' :: '/' :: renderAuthority a
  | none =>
    match u.path with
    | .segments ([] :: _ :: _) => "/."
    | _ => []

/-- A part with its mark in front, if it is there. -/
def marked (mark : Char) : Option Text → Text
  | none => []
  | some t => mark :: t

/-- **The text of a URL.** -/
def render (u : Url) : Text :=
  u.scheme ++ ':' :: renderFront u ++ renderPath u.path ++ marked '?' u.query ++
    marked '#' u.fragment

/-- The host, when it is not empty. -/
def host? (u : Url) : Option Host :=
  match u.authority with
  | none => none
  | some a => if a.host = .domain [] then none else some a.host

end Url

end ModuleHooks
