import ModuleHooks.Css.Transform
import ModuleHooks.Failure
import ModuleHooks.Journal
import ModuleHooks.Sass.Compile
import ModuleHooks.Specifier.Extension
import ModuleHooks.Stylesheet.ClassMap
import ModuleHooks.Stylesheet.Locator
/-!
# Compiling stylesheets

A stylesheet is found, brought into CSS, transformed, and emitted as a module. Where it
is found and what it is called on the import may differ: the scope follows the name on
the import, everything else follows the file that was found.

A stylesheet in the richer language may draw numbers by lot while it is brought into CSS,
so a compilation is told what is drawn in it.
-/

namespace ModuleHooks

/-- **A compiled stylesheet.** -/
structure CompiledStylesheet where
  /-- The file that was compiled. -/
  path : Path
  /-- Whose class names it defines. -/
  scope : Scope
  /-- The final CSS. -/
  css : Text
  /-- The class map, empty for plain stylesheets. -/
  classNames : ClassMap
  deriving DecidableEq, Repr

/-- The name of a callback, unless it is empty. -/
def callback? (name : Option Text) : Option Text := name.filter (· != [])

/-- **The module of a compiled stylesheet.** -/
def CompiledStylesheet.toModule (c : Config) (s : CompiledStylesheet) : Text :=
  match s.scope with
  | .scoped => Emission.scopedModule s.css s.classNames (callback? c.onCss)
  | .plain => Emission.plainModule s.path s.css (callback? c.onCssImported)

namespace Stylesheet

/-- The CSS and the class map of a stylesheet's text. -/
def transform (scope : Scope) (naming : ClassNaming) (convention : LocalsConvention)
    (css : Text) (filename : Path) : Except Text (Text × ClassMap) :=
  let scoping :=
    match scope with
    | .scoped => some naming
    | .plain => none
  match Css.transform css filename scoping with
  | .ok output => .ok (output.css, ClassMap.ofExports convention output.exports)
  | .error reason => .error reason

/-- Whether a file is written in the richer language that is compiled to CSS first. -/
def isSass (p : Path) : Bool := Specifier.extension p == (".scss" : Text)

/-- The file name under which compiled CSS goes on. -/
def cssSibling (p : Path) : Path := Path.withExtension p "css"

/-- **The file behind a stylesheet's path**: the path itself if a file is there, else
the source the locator finds. -/
def findSource (c : Config) (fs : FileSystem) (p : Path) : Logged (Except LoaderError Path) :=
  if fs.isFile p then .silent (.ok p)
  else
    match (Locator.ofConfig c).find? fs p with
    | some source => .noted (.usingSource source p) (.silent (.ok source))
    | none => .silent (.error (.sourceNotFound p))

/-- The stylesheet at a path in CSS, with the file name it goes under. The outer failure
is the system's, the inner one the stylesheet's. -/
def readCss (draws : Sass.Draws) (fs : FileSystem) (p : Path) :
    Except SystemError (Except Text (Text × Path)) :=
  if isSass p then
    match Sass.compile draws fs p with
    | .ok css => .ok (.ok (css, cssSibling p))
    | .error reason => .ok (.error reason)
  else
    match fs.readText p with
    | .ok css => .ok (.ok (css, p))
    | .error why => .error why

/-- Compiles the file at a path in a scope. -/
def compileFile (c : Config) (draws : Sass.Draws) (fs : FileSystem) (scope : Scope) (p : Path) :
    Except SystemError (Except Text CompiledStylesheet) :=
  match readCss draws fs p with
  | .error why => .error why
  | .ok (.error reason) => .ok (.error reason)
  | .ok (.ok (css, filename)) =>
    match transform scope c.classNaming c.localsConvention css filename with
    | .ok (css, classNames) => .ok (.ok { path := p, scope, css, classNames })
    | .error reason => .ok (.error reason)

/-- Compiles a file that was found, noting the attempt and its failure. -/
def compileFound (c : Config) (draws : Sass.Draws) (fs : FileSystem) (scope : Scope) (p : Path) :
    Logged (Except LoaderError CompiledStylesheet) :=
  .noted (.compiling p scope) <|
    match compileFile c draws fs scope p with
    | .ok (.ok s) => .silent (.ok s)
    | .ok (.error reason) =>
      .noted (.cannotCompile p reason) (.silent (.error (.stylesheetCompile p reason)))
    | .error why => .silent (.error (.fileSystem why))

/-- **Compiles the stylesheet that a path names.** -/
def compile (c : Config) (draws : Sass.Draws) (fs : FileSystem) (p : Path) :
    Logged (Except LoaderError CompiledStylesheet) :=
  (findSource c fs p).andThen fun
    | .ok source => compileFound c draws fs (Scope.ofPath p) source
    | .error why => .silent (.error why)

/-- **The module of the stylesheet that a path names.** -/
def compileModule (c : Config) (draws : Sass.Draws) (fs : FileSystem) (p : Path) :
    Logged (Except LoaderError Text) :=
  (compile c draws fs p).map fun r => r.map (CompiledStylesheet.toModule c)

/-- **What a stylesheet has to say** to those who work on it, while it is compiled. -/
def remarks (c : Config) (draws : Sass.Draws) (fs : FileSystem) (p : Path) : List Text :=
  match (findSource c fs p).value with
  | .ok source => if isSass source then Sass.remarks draws fs source else []
  | .error _ => []

end Stylesheet

end ModuleHooks
