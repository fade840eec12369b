import ModuleHooks.Text.Basic
/-!
# Bare specifiers

Some specifiers name modules that the host brings with it. Most of them can be imported
by their bare name; a few can only be reached through the `node:` scheme.

Any other bare specifier names a package and, after a slash, a path inside it. The name of a
scoped package is itself two segments, `@scope/base`.
-/

namespace ModuleHooks.Builtin

/-- Modules that can be imported with or without the scheme. -/
def modules : List Text :=
  List.map String.toList ["dgram", "dns", "dns/promises", "http", "http2", "https", "net", "tls",
    "child_process", "cluster", "fs", "fs/promises", "os", "path", "path/posix",
    "path/win32", "process", "worker_threads",
    "buffer", "crypto", "querystring", "string_decoder", "url", "zlib",
    "readline", "readline/promises", "stream", "stream/promises", "stream/web", "tty",
    "assert", "assert/strict", "async_hooks", "console", "constants",
    "diagnostics_channel", "domain", "events", "inspector", "module", "perf_hooks",
    "punycode", "repl", "sys", "timers", "timers/promises", "util", "util/types", "v8",
    "vm", "wasi"]

/-- Modules that can only be reached through the scheme. -/
def schemeOnly : List Text := ["sea", "sqlite", "test", "test/reporters"]

/-- **What a specifier is to the host's own modules.** -/
inductive Lookup where
  /-- The name of a module. -/
  | found (name : Text)
  /-- The scheme with a name that no module has. -/
  | unknown
  /-- Not about the host's modules at all. -/
  | unrelated
  deriving DecidableEq, Repr

/-- Looks a specifier up among the host's modules. -/
def lookup (specifier : Text) : Lookup :=
  match Text.stripStart? "node:" specifier with
  | some name =>
    if modules.contains name || schemeOnly.contains name then .found name else .unknown
  | none => if modules.contains specifier then .found specifier else .unrelated

/-- **Whether a specifier names a module of the host.** -/
def isBuiltin (specifier : Text) : Bool :=
  match lookup specifier with
  | .found _ => true
  | _ => false

end ModuleHooks.Builtin

namespace ModuleHooks

/-- **A package specifier**: a package and a path inside it. -/
structure PackageSpecifier where
  /-- The name of the package. -/
  name : Text
  /-- The path inside the package, when one is written. -/
  subpath : Option Text
  deriving DecidableEq, Repr

namespace PackageSpecifier

/-- Whether a segment can stand in a package name. -/
def isNameSegment (segment : Text) : Bool := segment != [] && segment != ['@']

/-- The path that the segments after a package name spell. -/
def subpathOf : List Text → Option Text
  | [] => none
  | rest =>
    let path := Text.join "/" rest
    if path = [] then none else some path

/-- **Reads a package specifier.** -/
def parse (specifier : Text) : Option PackageSpecifier :=
  match Text.splitOn '/' specifier with
  | ('@' :: scope) :: base :: rest =>
    if isNameSegment ('@' :: scope) && isNameSegment base then
      some ⟨('@' :: scope) ++ '/' :: base, subpathOf rest⟩
    else none
  | ('@' :: _) :: [] => none
  | name :: rest => if isNameSegment name then some ⟨name, subpathOf rest⟩ else none
  | [] => none

end PackageSpecifier

end ModuleHooks
