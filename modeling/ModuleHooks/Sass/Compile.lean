import ModuleHooks.Sass.Evaluation.Statement
/-!
# From style sheets to CSS

A style sheet is read, evaluated, and written as CSS. Imports for the browser come first
in what is written. What is drawn by lot on the way is given from outside, so that the
CSS is that of a style sheet and of what was drawn for it.
-/

namespace ModuleHooks.Sass

/-- What an evaluation has brought out, in the order in which it is written. -/
def Machine.output (m : Machine) : List Css :=
  let imports := m.imports.reverse.map fun p => Css.node p false []
  match Css.ofTree m.tree m.tree.nodes.size 0 with
  | .node _ _ children => imports ++ children

/-- **What comes of the style sheet at a path**: the remarks that it makes, and its CSS. -/
def evaluation (fs : FileSystem) (p : Path) : Lot (List Remark × Except Fault Text) := do
  let sheet? : Except Fault (Source × Sheet) := do
    let source ← Source.ofFile fs p
    return (source, ← Sheet.read source)
  match sheet? with
  | .error f => return ([], .error f)
  | .ok (source, sheet) =>
    let sheet := { sheet with path := Locate.canonical fs p }
    let start : Machine := { fs, main := source, path := sheet.path }
    let (result, m) ← (ExceptT.run (Eval.wholeSheet sheet)).run start
    let css : Except Fault Text := do
      let _ ← result
      Css.writeSheet m.store.selector (Span.front source) m.output
    return (m.remarks.reverse, css)

/-- **The CSS of the style sheet at a path**, or a report of what is wrong with it. -/
def compile (draws : Draws) (fs : FileSystem) (p : Path) : Except Text Text :=
  match ((evaluation fs p).run draws).2 with
  | .ok css => .ok css
  | .error f => .error f.report

/-- **What the style sheet at a path has to say** while it is compiled. -/
def remarks (draws : Draws) (fs : FileSystem) (p : Path) : List Text :=
  ((evaluation fs p).run draws).1.map Remark.report

/-- **A style sheet that draws nothing has CSS of its own.** -/
theorem compile_of_settled? {fs : FileSystem} {p : Path} {r : List Remark × Except Fault Text}
    (h : (evaluation fs p).settled? = some r) (draws draws' : Draws) :
    compile draws fs p = compile draws' fs p := by
  rw [compile, compile, Lot.run_of_settled? h, Lot.run_of_settled? h]

end ModuleHooks.Sass
