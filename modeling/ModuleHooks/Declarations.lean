import ModuleHooks.Text.Basic
/-!
# Type declarations

The declarations that give imports of stylesheets their types, and the names and numbers
under which the library presents itself.
-/

namespace ModuleHooks

/-- **The declarations**, to be written into a project. They say what is emitted: scoped
stylesheets export a class map, plain ones their path. -/
def typeDeclarations : Text :=
  "declare module \"*.module.scss\" \x7b\n    const styles: \x7b\n        readonly [className: string]: string;\n    \x7d;\n\n    export default styles;\n\x7d\n\ndeclare module \"*.module.css\" \x7b\n    const styles: \x7b\n        readonly [className: string]: string;\n    \x7d;\n\n    export default styles;\n\x7d\n\ndeclare module \"*.css\" \x7b\n    const filePath: string;\n    export default filePath;\n\x7d\n\ndeclare module \"*.scss\" \x7b\n    const filePath: string;\n    export default filePath;\n\x7d\n"

/-- The version. -/
def version : Text := "0.1.0"

end ModuleHooks
