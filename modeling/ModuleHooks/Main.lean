import ModuleHooks.CommandLine.Run
/-!
# The program

Takes in the files and the variables that a command may ask for, runs it on them, and
puts out what comes of it.

The configuration is read first, because it tells where the source of a missing stylesheet
may be. Then come the files that the command names, with the directories that these stand in,
and the working directory. Below a directory, names that begin with a dot and packages are
passed over; a directory that is named is taken in whatever its own name is.
-/

namespace ModuleHooks.Program

open CommandLine

/-! ## Variables -/

/-- A variable as the system writes it: the first equals sign behind the first byte parts the
name from the value. -/
def splitVariable? : List UInt8 → Option (List UInt8 × List UInt8)
  | [] => none
  | first :: rest =>
    match rest.span (· != 0x3D) with
    | (name, _ :: value) => some (first :: name, value)
    | (_, []) => none

/-- The variables in the form in which the system has them, each with a zero byte behind it. -/
def splitVariables (bytes : List UInt8) : ProcessVariables :=
  let entries : List (List UInt8) := bytes.foldr
    (fun b entries =>
      match entries with
      | entry :: entries => if b = 0 then [] :: entry :: entries else (b :: entry) :: entries
      | [] => [[]]) [[]]
  entries.filterMap splitVariable?

/-- The names of the variables that count, where the system does not tell all of them. -/
def variableNames : List Text :=
  ["HOME".toList, "XDG_CONFIG_HOME".toList, "JOPI_LOG".toList] ++ Key.all.map Config.variableName

/-- The variables of the process. -/
def readVariables : IO ProcessVariables := do
  match ← (IO.FS.readBinFile "/proc/self/environ").toBaseIO with
  | .ok bytes => return splitVariables bytes.toList
  | .error _ =>
    let values ← variableNames.mapM fun name => do
      return (← IO.getEnv name.toString).map fun value => (name, value.toList)
    return Environment.bytes (values.filterMap id)

/-! ## Files -/

/-- Takes in one file. A file that cannot be read is left out. -/
def takeFile (fs : FileSystem) (p : String) : IO FileSystem := do
  match ← (IO.FS.readBinFile p).toBaseIO with
  | .ok bytes => return fs.plant p.toList (.file bytes.toList)
  | .error _ => return fs

/-- Takes in what stands at a path and, down to some depth, below it. Names below it that
begin with a dot, and packages, are passed over. -/
def takeTree : Nat → FileSystem → String → IO FileSystem
  | 0, fs, _ => return fs
  | depth + 1, fs, p => do
    match ← (IO.FS.realPath p).toBaseIO with
    | .error _ => return fs
    | .ok place =>
      let real := place.toString
      let mut fs := if real = p then fs else fs.plant p.toList (.link real.toList)
      match ← place.readDir.toBaseIO with
      | .error _ => takeFile fs real
      | .ok entries =>
        fs := fs.plant real.toList .directory
        for e in entries do
          unless e.fileName.startsWith "." || e.fileName = "node_modules" do
            fs ← takeTree depth fs (Path.join real.toList e.fileName.toList).toString
        return fs

/-- How deep directories are taken in. -/
def depth : Nat := 16

/-- Takes in what stands at some paths. -/
def takeTrees (fs : FileSystem) (paths : List Path) : IO FileSystem :=
  (paths.map Path.normalise).eraseDups.foldlM
    (fun fs p => takeTree depth fs p.toString) fs

/-- The path that a specifier leads to, seen from a module. -/
def target? (importer : Path) (specifier : Text) : Option Path := do
  let context ← (ResolveContext.ofParentPath importer).toOption
  let url ← ((← context.parentUrl).join specifier).toOption
  url.toFilePath?

/-- **The files that a task is about**, and those that may be their sources. -/
def placesOf (c : Config) (dir : Path) (task : Task) : List Path :=
  let named :=
    match task with
    | .compile file => [Path.join dir file]
    | .resolve specifier parent | .load specifier parent =>
      let importer := Path.join dir (parent.getD promptModule)
      importer :: (target? importer specifier).toList
    | .types out => (out.map (Path.join dir)).toList
  named ++ named.flatMap (Locator.ofConfig c).candidates

/-- The directories of the packages that a specifier may name, seen from a path. -/
def packagesOf (specifier : Text) (importer : Path) : List Path :=
  match PackageSpecifier.parse specifier with
  | some package =>
    (StrictHost.ancestors importer).map (StrictHost.packageDirectory package.name)
  | none => []

/-- The files that a package in one of some directories may lead to. -/
def entriesOf (fs : FileSystem) (specifier : Text) (dirs : List Path) : List Path :=
  match PackageSpecifier.parse specifier with
  | some package =>
    dirs.map fun dir =>
      (package.subpath.map (Path.join dir)).getD (StrictHost.packageEntry fs dir)
  | none => []

/-- Takes in files with the directories that they stand in and the manifests above them. -/
def takePlaces (fs : FileSystem) (places : List Path) : IO FileSystem := do
  let above := places.flatMap fun p => (Path.parent? (Path.normalise p)).toList
  let manifests := above.flatMap fun dir =>
    (StrictHost.ancestors dir).map (Path.join · "package.json")
  takeTrees fs (above ++ places ++ manifests)

/-- **The files that a task may ask for**, seen from a directory. -/
def takeFiles (fs : FileSystem) (c : Config) (dir : Path) (task : Task) : IO FileSystem := do
  let fs ← takePlaces (← takeTrees fs [dir]) (placesOf c dir task)
  match task with
  | .resolve specifier parent | .load specifier parent =>
    let dirs := packagesOf specifier (Path.join dir (parent.getD promptModule))
    let fs ← takeTrees fs dirs
    takePlaces fs (entriesOf fs specifier (dirs.filter fs.isDirectory))
  | _ => return fs

/-- The files that the configuration of a request is in. -/
def takeConfiguration (dir : Path) (vars : ProcessVariables) (q : Request) : IO FileSystem := do
  let global := vars.configDirectory?.map Config.globalPath
  let configs := q.config.toList ++ global.toList ++ [Config.projectPath dir]
  configs.foldlM (fun fs p => takeFile fs (Path.join dir p).toString)
    (FileSystem.plant {} dir .directory)

/-! ## Drawing by lot -/

/-- A number whose bits all depend on all bits of another one. -/
def mixed (n : UInt64) : UInt64 :=
  let n := (n ^^^ (n >>> 30)) * 0xBF58476D1CE4E5B9
  let n := (n ^^^ (n >>> 27)) * 0x94D049BB133111EB
  n ^^^ (n >>> 31)

/-- The numbers that are drawn in a run of the program. -/
def readDraws : IO Sass.Draws := do
  let bytes ← IO.getRandomBytes 8
  let seed := bytes.toList.foldl (fun n b => n * 256 + b.toUInt64) 0
  return fun n => (mixed (seed + (n.toUInt64 + 1) * 0x9E3779B97F4A7C15)).toNat

/-! ## Running -/

/-- Puts out what came of a command line, with the notes that are asked for. -/
def put (o : Outcome) (directives : List Directive) : IO UInt32 := do
  for e in o.events do
    if Directive.shows directives e then IO.eprintln e.render.toString
  IO.eprint o.messages.toString
  IO.print o.output.toString
  return o.code.toUInt32

/-- **Runs a command line.** A file that the command writes is written before anything is
said about it. -/
def run (words : List Text) : IO UInt32 := do
  let vars ← readVariables
  match Request.read words with
  | .error stop => put (stop.outcome {}) (Directive.ofProcess vars false)
  | .ok q =>
    let dir := (← IO.currentDir).toString.toList
    let files := (← takeConfiguration dir vars q).enter dir
    let fs ←
      match (q.readConfig files vars).value with
      | .ok c => takeFiles files c dir q.task
      | .error _ => pure files
    let o := q.run (← readDraws) (fs.enter dir) vars
    match q.task with
    | .types (some p) =>
      if o.code = 0 then IO.FS.writeFile (Path.join dir p).toString typeDeclarations.toString
    | _ => pure ()
    put o (Directive.ofProcess vars q.isVerbose)

end ModuleHooks.Program

/-- The program. -/
def main (words : List String) : IO UInt32 :=
  ModuleHooks.Program.run (words.map String.toList)
