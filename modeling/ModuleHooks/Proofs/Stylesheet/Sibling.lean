import ModuleHooks.Proofs.FileSystem.Lookup
import ModuleHooks.Proofs.Stylesheet.Source
/-!
# A stylesheet and what it is compiled to

A project may ship stylesheets in the richer language, or it may compile them and ship
the CSS that comes of it under the same name with another extension. The class names
must not depend on which: they hold a mark of the file name, so the compiled CSS goes on
under the name that it would have on disk, and not under that of its source.

What is compared is a source in one file system and its CSS in another. Nothing is asked
of the other one but that it has the CSS, so it may be the first with one more file, or
a build output without any sources. What is drawn by lot for the source decides what its
CSS is, and has no part in what becomes of the CSS afterwards (`compile_sibling`).

The path with another extension is that of the source up to its last dot, with `css`
behind it. There is one exception: where a stylesheet has nothing but a dot in front of
its extension, the path with another extension is that of the directory above, where no
CSS can be.
-/

namespace ModuleHooks

namespace Specifier

/-- **A path with an extension** is parted at its last dot. -/
theorem exists_append_of_extension {p : Path} {e : Text} (h : extension p = '.' :: e) :
    ∃ front ext, p = front ++ '.' :: ext ∧ lastSegment front ≠ [] ∧ '.' ∉ ext
      ∧ (∀ c ∈ ext, isSlash c = false) ∧ Text.lowerAscii ext = e := by
  obtain ⟨stem, ext, hstem, hdot, hlower, hsegment⟩ := exists_lastSegment_of_extension h
  have hpiece : Text.lastPiece isSlash p = stem ++ '.' :: ext := hsegment
  have hslash : ∀ c ∈ stem ++ '.' :: ext, isSlash c = false := by
    rw [← hpiece]
    exact Text.eq_false_of_mem_splitBy (Text.lastPiece_mem isSlash p)
  obtain ⟨hslashStem, hslashExt⟩ := List.forall_mem_append.mp hslash
  have hext : ∀ c ∈ ext, isSlash c = false := fun c hc =>
    hslashExt c (List.mem_cons_of_mem '.' hc)
  rcases Text.eq_lastPiece_or isSlash p with hp | ⟨s, c, hc, hp⟩
  · refine ⟨stem, ext, hp.trans hpiece, ?_, hdot, hext, hlower⟩
    show Text.lastPiece isSlash stem ≠ []
    rw [Text.lastPiece_of_forall hslashStem]
    exact hstem
  · refine ⟨s ++ c :: stem, ext, ?_, ?_, hdot, hext, hlower⟩
    · rw [hpiece] at hp
      rw [hp, List.append_assoc, List.cons_append]
    · show Text.lastPiece isSlash (s ++ c :: stem) ≠ []
      rw [Text.lastPiece_append_cons hc, Text.lastPiece_of_forall hslashStem]
      exact hstem

end Specifier

namespace Stylesheet

variable {c : Config} {draws draws' : Sass.Draws} {fs fs' : FileSystem} {p q : Path} {scope : Scope}

/-! ## Compiling CSS -/

/-- What comes of a file, told from what comes of its CSS. -/
def outcome (p : Path) (scope : Scope) :
    Except Text (Text × ClassMap) → Except LoaderError CompiledStylesheet
  | .ok (css, classNames) => .ok { path := p, scope, css, classNames }
  | .error reason => .error (.stylesheetCompile p reason)

/-- **Two stylesheets agree**: they have the same CSS and the same class map, or they fail
with the same message. -/
inductive Agrees :
    Except LoaderError CompiledStylesheet → Except LoaderError CompiledStylesheet → Prop where
  | ok {s t : CompiledStylesheet} (css : s.css = t.css) (classNames : s.classNames = t.classNames) :
    Agrees (.ok s) (.ok t)
  | error (p q : Path) (reason : Text) :
    Agrees (.error (.stylesheetCompile p reason)) (.error (.stylesheetCompile q reason))

/-- Files agree if the same comes of their CSS. -/
theorem agrees_outcome (p q : Path) (scope scope' : Scope) (r : Except Text (Text × ClassMap)) :
    Agrees (outcome p scope r) (outcome q scope' r) := by
  cases r with
  | error reason => exact .error p q reason
  | ok out => exact .ok rfl rfl

/-- **What comes of a file** is what comes of the CSS it is read as. -/
theorem value_compileFound {css : Text} {filename : Path}
    (h : readCss draws fs p = .ok (.ok (css, filename))) :
    (compileFound c draws fs scope p).value
      = outcome p scope (transform scope c.classNaming c.localsConvention css filename) := by
  rw [compileFound, Logged.value_noted, compileFile, h]
  dsimp only
  cases transform scope c.classNaming c.localsConvention css filename <;> rfl

/-! ## The sibling of a source -/

/-- **The path of the CSS beside its source**: the same but for the extension. -/
def compiledPath (p : Path) : Path :=
  match Text.splitLast? '.' p with
  | some (front, _) => front ++ ".css".toList
  | none => p

/-- **The parts of a source's path**: what stands in front of its last dot, with the name that
this ends in, and the extension behind the dot. -/
structure IsSource (p : Path) (front stem ext : Text) : Prop where
  eq : p = front ++ '.' :: ext
  stem_eq : Text.lastPiece (· == '/') front = stem
  stem_ne : stem ≠ []
  ext_ne : ext ≠ []
  last_dot : '.' ∉ ext
  no_slash : '/' ∉ ext
  lower : Text.lowerAscii ext = "scss".toList

/-- **A path with the extension of the richer language is that of a source.** -/
theorem exists_isSource (hext : Specifier.extension p = ".scss".toList) :
    ∃ front stem ext, IsSource p front stem ext := by
  have hdotted : Specifier.extension p = '.' :: "scss".toList := hext
  obtain ⟨front, ext, hp, hsegment, hdot, hslashes, hlower⟩ :=
    Specifier.exists_append_of_extension hdotted
  obtain ⟨rest, hrest⟩ := Specifier.exists_lastPiece_eq front
  refine ⟨front, _, ext, hp, rfl, ?_, ?_, hdot, ?_, hlower⟩
  · rw [hrest]
    exact List.append_ne_nil_of_right_ne_nil rest hsegment
  · rintro rfl
    exact absurd hlower (by decide)
  · exact fun hmem => absurd (hslashes '/' hmem) (by decide)

namespace IsSource

variable {front stem ext : Text} (h : IsSource p front stem ext)

include h

theorem stem? : Path.stem? p = some stem := by
  rw [h.eq, Path.stem?_append_dot h.stem_eq h.stem_ne h.ext_ne h.last_dot h.no_slash]

theorem ofPath : Scope.ofPath p
    = if Text.endsWith (Text.lowerAscii stem) ".module" then .scoped else .plain := by
  refine Scope.ofPath_of_fileName? (Or.inr h.lower) ?_
  rw [h.eq]
  exact Path.fileName?_append_dot h.stem_eq h.stem_ne h.ext_ne h.no_slash

theorem compiledPath_eq : compiledPath p = front ++ ".css".toList := by
  rw [h.eq, compiledPath, Text.splitLast?_append_cons front h.last_dot]

/-- The compiled CSS goes on under the path of the CSS beside the source, if the stem is more
than a dot. -/
theorem cssSibling_eq :
    cssSibling p = if stem = ['.'] then front ++ ['.'] else front ++ ".css".toList := by
  rw [h.eq]
  exact Path.withExtension_append_cons h.ext_ne h.last_dot h.no_slash h.stem_eq h.stem_ne "css"

end IsSource

/-- CSS beside its source is not in the richer language. -/
theorem isSass_append_css (front : Text) : isSass (front ++ ".css".toList) = false := by
  have hcss : ∀ c ∈ ".css".toList, Specifier.isSlash c = false := by simp [Specifier.isSlash]
  have hsegment : Specifier.lastSegment (front ++ ".css".toList)
      = Text.lastPiece Specifier.isSlash front ++ '.' :: "css".toList :=
    Text.lastPiece_append hcss front
  rw [isSass, Specifier.extension, hsegment, Text.splitLast?_append_cons _ (by decide)]
  cases Text.lastPiece Specifier.isSlash front with
  | nil => rfl
  | cons c r =>
    show (Text.lowerAscii ".css".toList == ".scss".toList) = false
    decide

/-- A path that ends in a dot is not in the richer language. -/
theorem isSass_append_dot (front : Text) : isSass (front ++ ['.']) = false := by
  have hsegment : Specifier.lastSegment (front ++ ['.'])
      = Text.lastPiece Specifier.isSlash front ++ '.' :: [] :=
    Text.lastPiece_append (by simp [Specifier.isSlash]) front
  rw [isSass, Specifier.extension, hsegment, Text.splitLast?_append_cons _ List.not_mem_nil]
  cases Text.lastPiece Specifier.isSlash front with
  | nil => rfl
  | cons c r =>
    show (Text.lowerAscii ['.'] == ".scss".toList) = false
    decide

/-- **The path under which compiled CSS goes on** is not that of a source. -/
theorem isSass_cssSibling (hext : Specifier.extension p = ".scss".toList) :
    isSass (cssSibling p) = false := by
  obtain ⟨front, stem, ext, h⟩ := exists_isSource hext
  rw [h.cssSibling_eq]
  split_ifs
  · exact isSass_append_dot front
  · exact isSass_append_css front

/-- **A source and its CSS have one scope**: it is told from the stem. -/
theorem ofPath_cssSibling (hext : Specifier.extension p = ".scss".toList) :
    Scope.ofPath (cssSibling p) = Scope.ofPath p := by
  obtain ⟨front, stem, ext, h⟩ := exists_isSource hext
  rw [h.cssSibling_eq, h.ofPath]
  by_cases hup : stem = ['.']
  · -- The directory above has no name, and a dot is not the stem of a CSS Module.
    rw [if_pos hup, Scope.ofPath, Path.fileName?_append_up (h.stem_eq.trans hup), hup]
    decide
  · rw [if_neg hup]
    have hname : Path.fileName? (front ++ ".css".toList) = some (stem ++ ".css".toList) :=
      Path.fileName?_append_dot h.stem_eq h.stem_ne (by decide) (by decide)
    exact Scope.ofPath_of_fileName? (Or.inl (by decide)) hname

/-- **A source and its CSS agree.**

Let a source compile to CSS, and let the path with its extension replaced lead to this CSS, in
the same file system or in another. Then both give the same stylesheet or fail with the same
message, whatever is drawn in the second run.

That both have the same scope need not be asked for. The path with the extension replaced is
that of the source up to the last dot and `css`, if the stem is more than a dot. -/
theorem compile_sibling {c : Config} {draws draws' : Sass.Draws} {fs fs' : FileSystem} {p : Path}
    {css : Text} (hfile : fs.isFile p = true) (hext : Specifier.extension p = ".scss".toList)
    (hcss : Sass.compile draws fs p = .ok css)
    (hsibling : fs'.readText (Path.withExtension p "css") = .ok css) :
    Agrees (compile c draws fs p).value
        (compile c draws' fs' (Path.withExtension p "css")).value
      ∧ Scope.ofPath (Path.withExtension p "css") = Scope.ofPath p
      ∧ (Path.stem? p ≠ some ".".toList → Path.withExtension p "css" = compiledPath p) := by
  have hread : readCss draws fs p = .ok (.ok (css, cssSibling p)) := by
    rw [readCss, isSass, hext, if_pos (beq_self_eq_true _), hcss]
  have hread' : readCss draws' fs' (cssSibling p) = .ok (.ok (css, cssSibling p)) := by
    have hbeside : fs'.readText (cssSibling p) = .ok css := hsibling
    rw [readCss, isSass_cssSibling hext, if_neg Bool.false_ne_true, hbeside]
  have hfile' : fs'.isFile (cssSibling p) = true := FileSystem.isFile_of_readText hsibling
  refine ⟨?_, ofPath_cssSibling hext, fun hstem => ?_⟩
  · show Agrees _ (compile c draws' fs' (cssSibling p)).value
    rw [value_compile (value_findSource_of_isFile hfile),
      value_compile (value_findSource_of_isFile hfile'), ofPath_cssSibling hext,
      value_compileFound hread, value_compileFound hread']
    exact agrees_outcome _ _ _ _ _
  · obtain ⟨front, stem, ext, h⟩ := exists_isSource hext
    have hne : stem ≠ ['.'] := by
      rintro rfl
      exact hstem h.stem?
    show cssSibling p = _
    rw [h.cssSibling_eq, if_neg hne, h.compiledPath_eq]

/-- A project with a CSS Module, and with a stylesheet whose CSS has a layer without a name. -/
def authored : FileSystem where
  nodes := [(["app".toList], .directory),
    (["app".toList, "button.module.scss".toList],
      .file (Text.utf8 ".button \x7b margin: random(4) * 1px \x7d".toList)),
    (["app".toList, "layer.SCSS".toList], .file (Text.utf8 "@layer;".toList))]

/-- The same project with the compiled CSS beside the sources. -/
def built : FileSystem :=
  (authored.put ["app".toList, "button.module.css".toList]
      (.file (Text.utf8 ".button \x7b\n  margin: 3px;\n\x7d\n".toList))).put
    ["app".toList, "layer.css".toList] (.file (Text.utf8 "@layer;\n".toList))

/-- **The law at a project**: a CSS Module with a number that is drawn, and a fault that is told
of the layer in the same way under either name. -/
theorem compile_sibling_authored :
    Agrees (compile {} (fun _ => 2) authored "/app/button.module.scss".toList).value
        (compile {} Sass.noughts built "/app/button.module.css".toList).value
      ∧ Agrees (compile {} Sass.noughts authored "/app/layer.SCSS".toList).value
        (compile {} Sass.noughts built "/app/layer.css".toList).value
      ∧ (compile {} Sass.noughts authored "/app/layer.SCSS".toList).value
        = .error (.stylesheetCompile "/app/layer.SCSS".toList
          "Unexpected token Semicolon at /app/layer.css:0:8".toList) := by
  have hcss : Sass.compile (fun _ => 2) authored "/app/button.module.scss".toList
      = .ok ".button \x7b\n  margin: 3px;\n\x7d\n".toList := by decide +kernel
  have hlayer : Sass.compile Sass.noughts authored "/app/layer.SCSS".toList
      = .ok "@layer;\n".toList := by decide +kernel
  have hbutton : Path.withExtension "/app/button.module.scss".toList "css"
      = "/app/button.module.css".toList := by decide +kernel
  have hbeside : Path.withExtension "/app/layer.SCSS".toList "css"
      = "/app/layer.css".toList := by decide +kernel
  obtain ⟨law, -⟩ := @compile_sibling {} _ Sass.noughts authored built _ _ (by decide +kernel)
    (by decide) hcss (by rw [hbutton]; decide +kernel)
  obtain ⟨lawLayer, -⟩ := @compile_sibling {} _ Sass.noughts authored built _ _
    (by decide +kernel) (by decide) hlayer (by rw [hbeside]; decide +kernel)
  rw [hbutton] at law
  rw [hbeside] at lawLayer
  exact ⟨law, lawLayer, by decide +kernel⟩

end Stylesheet

end ModuleHooks
