import ModuleHooks.Url.Basic
/-!
# Reading URLs

A text is read as an absolute URL or as a reference relative to a base. Blanks and
control characters at the ends and line ends anywhere do not count. After the scheme and
the authority have been read, what remains is cut into path, query and fragment, and the
segments of the path are put into normal form one by one.
-/

namespace ModuleHooks.Url

/-! ## Paths -/

/-- Whether a segment stands for the directory itself. -/
def isHere (s : Text) : Bool := [".".toList, "%2e".toList].contains (Text.lowerAscii s)

/-- Whether a segment stands for the directory above. -/
def isAbove (s : Text) : Bool :=
  ["..".toList, ".%2e".toList, "%2e.".toList, "%2e%2e".toList].contains (Text.lowerAscii s)

/-- Whether a segment is a drive letter. -/
def isDrive : Text → Bool
  | [a, b] => a.isAlpha && (b == ':' || b == '|')
  | _ => false

/-- Whether a segment is a drive letter in normal form. -/
def isNormalDrive : Text → Bool
  | [a, ':'] => a.isAlpha
  | _ => false

/-- The stack of segments without the innermost one, unless that is a drive letter. -/
def popSegment : List Text → List Text
  | [] => []
  | s :: r => if isDrive s then s :: r else r

/-- The stack of segments after one more, which is not the last. A drive letter at the
front of a file path is put into normal form. -/
def pushSegment (file : Bool) (stack : List Text) (s : Text) : List Text :=
  if isAbove s then popSegment stack
  else if isHere s then stack
  else if file && stack = [] && isDrive s then [s.take 1 ++ [':']]
  else s :: stack

/-- **The segments in normal form**, with the given segments, innermost first, before
them. A last segment that stands for a directory leaves an empty one. -/
def normalSegments (file : Bool) (stack : List Text) : List Text → List Text
  | [] => stack.reverse
  | [s] =>
    if isAbove s || isHere s then ([] :: pushSegment file stack s).reverse
    else (pushSegment file stack s).reverse
  | s :: rest => normalSegments file (pushSegment file stack s) rest

/-- A file path has no empty segments at the front. -/
def dropEmptyFront (segments : List Text) : List Text :=
  match segments.dropWhile (· == []) with
  | [] => [[]]
  | l => l

/-- The segments of a path as it is written. -/
def writtenSegments (special : Bool) (t : Text) : List Text :=
  (Text.splitBy (fun c => c == '/' || (special && c == '\\')) t).map
    (Percent.encode Percent.pathSet)

/-- The normal form of the path `t` after the given segments, innermost first. -/
def pathAfter (scheme : Text) (stack : List Text) (t : Text) : List Text :=
  let file := isFileScheme scheme
  let segments := normalSegments file stack (writtenSegments (isSpecial scheme) t)
  if file then dropEmptyFront segments else segments

/-- Whether the path `t` of a file begins with a drive letter, which drops the host. -/
def beginsWithDrive (t : Text) : Bool :=
  match writtenSegments true t with
  | s :: _ => isDrive s
  | [] => false

/-! ## Cutting -/

/-- The parts of the text before and after the path: path, query and fragment, as they
are written. -/
def cut (t : Text) : Text × Option Text × Option Text :=
  let (front, fragment) :=
    match Text.splitFirst? "#" t with
    | some (front, fragment) => (front, some fragment)
    | none => (t, none)
  match Text.splitFirst? "?" front with
  | some (path, query) => (path, some query, fragment)
  | none => (front, none, fragment)

/-- The query in encoded form. -/
def encodeQuery (scheme t : Text) : Text :=
  Percent.encode (if isSpecial scheme then Percent.specialQuerySet else Percent.querySet) t

/-- The fragment in encoded form. -/
def encodeFragment (t : Text) : Text := Percent.encode Percent.fragmentSet t

/-- The URL with the query and the fragment of a reference. -/
def withTail (u : Url) (query fragment : Option Text) : Url :=
  { u with query := query.map (encodeQuery u.scheme), fragment := fragment.map encodeFragment }

/-- Whether a character ends an authority. -/
def endsAuthority (special : Bool) (c : Char) : Bool :=
  c == '/' || c == '?' || c == '#' || (special && c == '\\')

/-! ## Authorities -/

/-- The user name and the password before an at sign. An empty password is none. -/
def readUser (t : Text) : Text × Option Text :=
  match Text.splitFirst? ":" t with
  | none => (Percent.encode Percent.userSet t, none)
  | some (name, []) => (Percent.encode Percent.userSet name, none)
  | some (name, password) =>
    (Percent.encode Percent.userSet name, some (Percent.encode Percent.userSet password))

/-- The text of a host and what follows it. A colon between brackets does not end it. -/
def splitHost : Bool → Text → Text × Text
  | _, [] => ([], [])
  | inside, c :: r =>
    if c = ':' && !inside then ([], c :: r)
    else
      let (host, rest) := splitHost (if c = '[' then true else if c = ']' then false else inside) r
      (c :: host, rest)

/-- Reads a port. -/
def readPort (scheme t : Text) : Except UrlError (Option Nat) :=
  if t.all Char.isDigit then
    let n := t.foldl (fun n c => n * 10 + (c.toNat - 48)) 0
    if n > 65535 then .error .invalidPort
    else if t = [] || defaultPort? scheme == some n then .ok none
    else .ok (some n)
  else .error .invalidPort

/-- Reads an authority. -/
def readAuthority (scheme t : Text) : Except UrlError Authority := do
  let (user, rest) :=
    match Text.splitLast? '@' t with
    | some (user, rest) => (some user, rest)
    | none => (none, t)
  if user.isSome && rest = [] then throw .emptyHost
  let (username, password) := readUser (user.getD [])
  let (hostText, portText) := splitHost false rest
  let host ←
    if isSpecial scheme then
      if hostText = [] then throw .emptyHost else Host.parse hostText
    else Host.parseOpaque hostText
  match portText with
  | [] =>
    if host = .domain [] && (username != [] || password.isSome) then throw .emptyHost
    return { username, password, host }
  | _ :: digits =>
    if host = .domain [] then throw .emptyHost
    let port ← readPort scheme digits
    return { username, password, host, port }

/-- The path after an authority, as it is written. Special URLs always have one. -/
def pathOfWritten (scheme : Text) (path : Text) : List Text :=
  match path with
  | [] => if isSpecial scheme then pathAfter scheme [] [] else []
  | '/' :: r => pathAfter scheme [] r
  | '\\' :: r => if isSpecial scheme then pathAfter scheme [] r else pathAfter scheme [] ('\\' :: r)
  | t => pathAfter scheme [] t

/-- Reads what follows `scheme://`. -/
def readAfterSlashes (scheme t : Text) : Except UrlError Url := do
  let stop := endsAuthority (isSpecial scheme)
  let authority ← readAuthority scheme (t.takeWhile (!stop ·))
  let (path, query, fragment) := cut (t.dropWhile (!stop ·))
  return withTail
    { scheme, authority := some authority, path := .segments (pathOfWritten scheme path) }
    query fragment

/-! ## Files -/

/-- The URL of a file path. -/
def fileUrl (host : Host) (segments : List Text) : Url :=
  { scheme := "file", authority := some { host }, path := .segments segments }

/-- Whether a text begins with a segment that is a drive letter. -/
def startsWithDrive : Text → Bool
  | a :: b :: r =>
    a.isAlpha && (b == ':' || b == '|') &&
      (match r with
        | [] => true
        | c :: _ => endsAuthority true c)
  | _ => false

/-- Reads what follows `file://`. -/
def readFileHost (t : Text) : Except UrlError Url := do
  let hostText := t.takeWhile (!endsAuthority true ·)
  let drive := isDrive hostText
  let rest := if drive then t else t.dropWhile (!endsAuthority true ·)
  let host ← if drive || hostText = [] then pure (Host.domain []) else Host.parse hostText
  let (path, query, fragment) := cut rest
  if host = .domain [] || host = .domain "localhost" then
    return withTail (fileUrl (.domain []) (pathAfter "file" [] path)) query fragment
  else
    let inner := if path = [] then [] else path.drop 1
    let kept := if beginsWithDrive inner then Host.domain [] else host
    return withTail (fileUrl kept (pathAfter "file" [] inner)) query fragment

/-- The segments of a URL's path; an opaque path has none. -/
def segmentList (u : Url) : List Text :=
  match u.path with
  | .opaqueText _ => []
  | .segments l => l

/-- The stack of segments of the directory of a URL. -/
def directoryStack (u : Url) : List Text :=
  match (segmentList u).reverse with
  | [] => []
  | s :: r => if isFileScheme u.scheme && isNormalDrive s then s :: r else r

/-- The host of a base, where one counts. -/
def baseHost (base : Option Url) : Host :=
  match base with
  | none => .domain []
  | some b => (b.authority.map (·.host)).getD (.domain [])

/-- Reads a reference with one slash to a file. -/
def readRootedFile (base : Option Url) (t : Text) : Url :=
  let (path, query, fragment) := cut t
  let (host, stack) :=
    if startsWithDrive t then (Host.domain [], [])
    else
      match base.map segmentList with
      | some (s :: _) => if isNormalDrive s then (Host.domain [], [s]) else (baseHost base, [])
      | _ => (baseHost base, [])
  withTail (fileUrl host (pathAfter "file" stack path)) query fragment

/-- Reads a reference to a file, relative to a file if there is a base. -/
def readFile (base : Option Url) (t : Text) : Except UrlError Url :=
  match t with
  | c :: r =>
    if c = '/' || c = '\\' then
      match r with
      | d :: s => if d = '/' || d = '\\' then readFileHost s else .ok (readRootedFile base r)
      | [] => .ok (readRootedFile base r)
    else
      match base with
      | none =>
        let (path, query, fragment) := cut t
        .ok (withTail (fileUrl (.domain []) (pathAfter "file" [] path)) query fragment)
      | some b =>
        let (path, query, fragment) := cut t
        if path = [] then
          match query with
          | some _ => .ok (withTail b query fragment)
          | none => .ok { b with fragment := fragment.map encodeFragment }
        else if startsWithDrive t then
          .ok (withTail (fileUrl (.domain []) (pathAfter "file" [] path)) query fragment)
        else
          .ok (withTail { b with path := .segments (pathAfter "file" (directoryStack b) path) }
            query fragment)
  | [] =>
    match base with
    | none => .ok (fileUrl (.domain []) [[]])
    | some b => .ok { b with fragment := none }

/-! ## References -/

/-- Whether a character is a slash of either kind. -/
def isSlash (c : Char) : Bool := c == '/' || c == '\\'

/-- Reads a reference relative to a base that is not a file. -/
def readRelative (base : Url) (t : Text) : Except UrlError Url :=
  let (path, query, fragment) := cut t
  match t with
  | c :: r =>
    if isSlash c then
      if (t.takeWhile isSlash).length ≥ 2 then
        match Text.stripStart? "//" t with
        | some rest => readAfterSlashes base.scheme rest
        | none => readAfterSlashes base.scheme (t.dropWhile isSlash)
      else
        let (path, query, fragment) := cut r
        .ok (withTail { base with path := .segments (pathAfter base.scheme [] path) } query
          fragment)
    else if path = [] then
      match query with
      | some _ => .ok (withTail base query fragment)
      | none => .ok { base with fragment := fragment.map encodeFragment }
    else
      .ok (withTail
        { base with path := .segments (pathAfter base.scheme (directoryStack base) path) }
        query fragment)
  | [] => .ok { base with fragment := none }

/-- Reads what follows the colon of a scheme that is not special. -/
def readOpaqueOrRooted (scheme t : Text) : Except UrlError Url :=
  match Text.stripStart? "//" t with
  | some rest => readAfterSlashes scheme rest
  | none =>
    let (path, query, fragment) := cut t
    match path with
    | '/' :: r => .ok (withTail { scheme, path := .segments (pathAfter scheme [] r) } query fragment)
    | _ =>
      .ok (withTail { scheme, path := .opaqueText (Percent.encode Percent.controls path) } query
        fragment)

/-- Whether a character can stand in a scheme after its first letter. -/
def isSchemeChar (c : Char) : Bool :=
  c.isAlpha || c.isDigit || c == '+' || c == '-' || c == '.'

/-- The scheme in front of a text, in lower case, and what follows its colon. -/
def splitScheme? (t : Text) : Option (Text × Text) :=
  match t with
  | c :: _ =>
    if c.isAlpha then
      match t.dropWhile isSchemeChar with
      | ':' :: rest => some (Text.lowerAscii (t.takeWhile isSchemeChar), rest)
      | _ => none
    else none
  | [] => none

/-- The text without what does not count: blanks and controls at the ends, tabs and
line ends anywhere. -/
def clean (t : Text) : Text :=
  (Text.trim (·.toNat ≤ 32) t).filter fun c => c != '\t' && c != '\n' && c != '\r'

/-- Reads a text that has a scheme. -/
def readWithScheme (base : Option Url) (scheme rest : Text) : Except UrlError Url :=
  let base := base.filter fun b => b.scheme == scheme
  if isFileScheme scheme then readFile base rest
  else if isSpecial scheme then
    match base with
    | some b =>
      if (rest.takeWhile isSlash).length < 2 then readRelative b rest
      else readAfterSlashes scheme (rest.dropWhile isSlash)
    | none => readAfterSlashes scheme (rest.dropWhile isSlash)
  else readOpaqueOrRooted scheme rest

/-- Reads a text that has no scheme, relative to a base. -/
def readWithoutScheme (base : Option Url) (t : Text) : Except UrlError Url :=
  match base with
  | none => .error .relativeWithoutBase
  | some b =>
    match t, b.path with
    | '#' :: fragment, _ => .ok { b with fragment := some (encodeFragment fragment) }
    | _, .opaqueText _ => .error .relativeWithOpaqueBase
    | _, .segments [] =>
      if b.authority.isNone then .error .relativeWithOpaqueBase else readRelative b t
    | _, .segments _ => if isFileScheme b.scheme then readFile (some b) t else readRelative b t

/-- Reads a text as a URL, relative to a base if there is one. -/
def read (base : Option Url) (t : Text) : Except UrlError Url :=
  let t := clean t
  match splitScheme? t with
  | some (scheme, rest) => readWithScheme base scheme rest
  | none => readWithoutScheme base t

/-- **Reads an absolute URL.** -/
def parse (t : Text) : Except UrlError Url := read none t

/-- **Reads a reference relative to a base.** -/
def join (base : Url) (t : Text) : Except UrlError Url := read (some base) t

end ModuleHooks.Url
