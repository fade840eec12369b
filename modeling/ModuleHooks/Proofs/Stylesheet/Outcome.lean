import ModuleHooks.Proofs.Stylesheet.Sibling
/-!
# What becomes of a stylesheet

Four things can happen to the path of a stylesheet: no file is found for it, the file cannot
be read, something in the file is refused, or it is compiled. Which of them happens is told
from the file that is found, the text in it and the two languages alone (`comes_iff`), and
each of them excludes the others, because a file has one text and a text one translation.

Only a refusal is worth a warning. The search notes what it found and the compiler what it
begins with, but none of these notes is a warning, so that whoever reads the warnings sees
exactly the stylesheets that were refused (`warnings_compile`).

A plain stylesheet exports nothing (`exports_transform_none`): a name is exported when its
scoped form is written, and there is none.
-/

namespace ModuleHooks

/-! ## Exports without scoping -/

namespace Css

/-- One piece exports nothing without a scoping. -/
theorem Scoping.exports_piece_none {exports exports' : Exports} {p : Piece} {t : Text}
    (h : piece none exports p = .ok (t, exports')) : exports' = exports := by
  cases p with
  | fault f => cases h
  | text _ | lineBreak _ | «local» _ | gridLine _ | composition _ _ _ _ =>
    cases h
    rfl

/-- **Nothing is exported without a scoping.** -/
theorem Scoping.exports_render_none {exports exports' : Exports} {w : Written} {texts : List Text}
    (h : render none exports w = .ok (texts, exports')) : exports' = exports := by
  induction w generalizing exports texts with
  | nil =>
    cases h
    rfl
  | cons p w ih =>
    rw [render] at h
    split at h
    · cases h
    · next hpiece =>
      split at h
      · cases h
      · next hrest =>
        cases h
        rw [ih hrest, exports_piece_none hpiece]

/-- A stylesheet without scoped names exports none. -/
theorem exports_transform_none {css : Text} {filename : Path} {output : Output}
    (h : transform css filename none = .ok output) : output.exports = [] := by
  unfold transform at h
  dsimp only [Option.isSome_none, Option.map_none] at h
  split at h
  · cases h
  · split at h
    · cases h
    · next hrender =>
      cases h
      exact Scoping.exports_render_none hrender

end Css

/-- **The warnings among notes**, as they are told. -/
def warnings (events : List Event) : List Text :=
  (events.filter fun e => e.level = .warn).map Event.render

theorem warnings_append (events more : List Event) :
    warnings (events ++ more) = warnings events ++ warnings more := by
  rw [warnings, List.filter_append, List.map_append, warnings, warnings]

namespace Stylesheet

variable {c : Config} {draws : Sass.Draws} {fs : FileSystem} {p q : Path} {scope : Scope}
  {css filename : Text}

/-- The class map of a plain stylesheet is empty. -/
theorem classNames_transform_plain {naming : ClassNaming} {convention : LocalsConvention}
    {out : Text × ClassMap} (h : transform .plain naming convention css filename = .ok out) :
    out.2 = [] := by
  unfold transform at h
  dsimp only at h
  split at h
  · next output houtput =>
    cases h
    show ClassMap.ofExports convention output.exports = []
    rw [Css.exports_transform_none houtput]
    rfl
  · cases h

/-! ## The file that is found -/

/-- **The file behind a path**: the path itself if a file is there, else the first of its
candidates that is a file. -/
def source? (c : Config) (fs : FileSystem) (p : Path) : Option Path :=
  if fs.isFile p then some p else ((Locator.ofConfig c).candidates p).find? fs.isFile

theorem value_findSource (c : Config) (fs : FileSystem) (p : Path) :
    (findSource c fs p).value = match source? c fs p with
      | some q => .ok q
      | none => .error (.sourceNotFound p) := by
  unfold findSource source? Locator.find?
  split_ifs
  · rfl
  · cases ((Locator.ofConfig c).candidates p).find? fs.isFile <;> rfl

/-- A search gives no warning. -/
theorem warnings_findSource (c : Config) (fs : FileSystem) (p : Path) :
    warnings (findSource c fs p).events = [] := by
  unfold findSource
  split_ifs
  · rfl
  · cases (Locator.ofConfig c).find? fs p <;> rfl

/-! ## The text in it -/

theorem isSass_iff : isSass p = true ↔ Specifier.extension p = ".scss".toList := beq_iff_eq

/-- **The CSS of a file**, and the name under which it goes on: the text of the file under its
own name, or the translation of it under that of the sibling. -/
inductive HasCss (draws : Sass.Draws) (fs : FileSystem) (p : Path) : Text → Path → Prop where
  /-- The file is written in CSS. -/
  | plain {css : Text} (ext : Specifier.extension p ≠ ".scss".toList)
      (text : fs.readText p = .ok css) : HasCss draws fs p css p
  /-- The file is written in the richer language. -/
  | translated {css : Text} (ext : Specifier.extension p = ".scss".toList)
      (translation : Sass.compile draws fs p = .ok css) : HasCss draws fs p css (cssSibling p)

/-- **What comes of a file in a scope.** The conditions exclude each other. -/
inductive Comes (c : Config) (draws : Sass.Draws) (fs : FileSystem) (scope : Scope) (p : Path) :
    Except LoaderError CompiledStylesheet → Prop where
  /-- The file cannot be read as a text. -/
  | unreadable {why : SystemError} (ext : Specifier.extension p ≠ ".scss".toList)
      (text : fs.readText p = .error why) : Comes c draws fs scope p (.error (.fileSystem why))
  /-- The richer language refuses it. -/
  | untranslated {reason : Text} (ext : Specifier.extension p = ".scss".toList)
      (translation : Sass.compile draws fs p = .error reason) :
      Comes c draws fs scope p (.error (.stylesheetCompile p reason))
  /-- Its CSS is refused. -/
  | refused {css reason : Text} {filename : Path} (hasCss : HasCss draws fs p css filename)
      (transformed :
        transform scope c.classNaming c.localsConvention css filename = .error reason) :
      Comes c draws fs scope p (.error (.stylesheetCompile p reason))
  /-- It is compiled. -/
  | compiled {css : Text} {filename : Path} {out : Text × ClassMap}
      (hasCss : HasCss draws fs p css filename)
      (transformed : transform scope c.classNaming c.localsConvention css filename = .ok out) :
      Comes c draws fs scope p (.ok { path := p, scope, css := out.1, classNames := out.2 })

theorem readCss_of_hasCss (h : HasCss draws fs p css filename) :
    readCss draws fs p = .ok (.ok (css, filename)) := by
  cases h with
  | plain ext text => rw [readCss, if_neg (mt isSass_iff.mp ext), text]
  | translated ext translation => rw [readCss, if_pos (isSass_iff.mpr ext), translation]

/-- A file that is found comes to something. -/
theorem comes_compileFound (c : Config) (draws : Sass.Draws) (fs : FileSystem) (scope : Scope)
    (p : Path) :
    Comes c draws fs scope p (compileFound c draws fs scope p).value := by
  have htransform : ∀ css filename, HasCss draws fs p css filename →
      Comes c draws fs scope p (compileFound c draws fs scope p).value := by
    intro css filename h
    rw [value_compileFound (readCss_of_hasCss h)]
    cases hout : transform scope c.classNaming c.localsConvention css filename with
    | ok out => exact .compiled h hout
    | error reason => exact .refused h hout
  by_cases ext : Specifier.extension p = ".scss".toList
  · cases translation : Sass.compile draws fs p with
    | ok css => exact htransform css _ (.translated ext translation)
    | error reason =>
      have hread : readCss draws fs p = .ok (.error reason) := by
        rw [readCss, if_pos (isSass_iff.mpr ext), translation]
      rw [compileFound, Logged.value_noted, compileFile, hread]
      exact .untranslated ext translation
  · cases text : fs.readText p with
    | ok css => exact htransform css _ (.plain ext text)
    | error why =>
      have hread : readCss draws fs p = .error why := by
        rw [readCss, if_neg (mt isSass_iff.mp ext), text]
      rw [compileFound, Logged.value_noted, compileFile, hread]
      exact .unreadable ext text

/-- **What comes of a file is one thing**, and it is what the compiler answers. -/
theorem comes_iff {r : Except LoaderError CompiledStylesheet} :
    Comes c draws fs scope p r ↔ (compileFound c draws fs scope p).value = r := by
  refine ⟨fun h => ?_, fun h => h ▸ comes_compileFound c draws fs scope p⟩
  cases h with
  | unreadable ext text =>
    rw [compileFound, Logged.value_noted, compileFile, readCss, if_neg (mt isSass_iff.mp ext),
      text]
    rfl
  | untranslated ext translation =>
    rw [compileFound, Logged.value_noted, compileFile, readCss, if_pos (isSass_iff.mpr ext),
      translation]
    rfl
  | refused hasCss transformed =>
    rw [value_compileFound (readCss_of_hasCss hasCss), transformed]
    rfl
  | compiled hasCss transformed =>
    rw [value_compileFound (readCss_of_hasCss hasCss), transformed]
    rfl

/-- A file that is found gives a warning exactly if something in it is refused. -/
theorem warnings_compileFound (c : Config) (draws : Sass.Draws) (fs : FileSystem) (scope : Scope)
    (p : Path) :
    warnings (compileFound c draws fs scope p).events
      = match (compileFound c draws fs scope p).value with
      | .error (.stylesheetCompile q reason) =>
        ["WARN jopi-loader - cannot compile ".toList ++ q ++ ": ".toList ++ reason]
      | _ => [] := by
  unfold compileFound
  cases compileFile c draws fs scope p with
  | error why => rfl
  | ok compiled =>
    cases compiled with
    | ok s => rfl
    | error reason => rfl

/-! ## The path -/

/-- **What becomes of a path** is that no file is found, or what comes of the file. -/
theorem value_compile_iff {r : Except LoaderError CompiledStylesheet} :
    (compile c draws fs p).value = r ↔
      (source? c fs p = none ∧ r = .error (.sourceNotFound p))
        ∨ ∃ q, source? c fs p = some q ∧ Comes c draws fs (Scope.ofPath p) q r := by
  have hfind := value_findSource c fs p
  cases hsource : source? c fs p with
  | none =>
    rw [hsource] at hfind
    rw [value_compile_of_error hfind]
    refine ⟨fun h => Or.inl ⟨rfl, h.symm⟩, fun h => ?_⟩
    obtain ⟨-, h⟩ | ⟨q, h, -⟩ := h
    · exact h.symm
    · cases h
  | some q =>
    rw [hsource] at hfind
    rw [value_compile hfind, ← comes_iff]
    refine ⟨fun h => Or.inr ⟨q, rfl, h⟩, fun h => ?_⟩
    obtain ⟨h, -⟩ | ⟨q', hq', h⟩ := h
    · cases h
    · cases hq'
      exact h

/-- **The warnings about a path** are those about the file that is found. -/
theorem warnings_compile (c : Config) (draws : Sass.Draws) (fs : FileSystem) (p : Path) :
    warnings (compile c draws fs p).events = match (compile c draws fs p).value with
      | .error (.stylesheetCompile q reason) =>
        ["WARN jopi-loader - cannot compile ".toList ++ q ++ ": ".toList ++ reason]
      | _ => [] := by
  have hfind := value_findSource c fs p
  rw [compile, Logged.value_andThen]
  show warnings ((findSource c fs p).events ++ _) = _
  rw [warnings_append, warnings_findSource, List.nil_append, hfind]
  cases source? c fs p with
  | none => rfl
  | some q => exact warnings_compileFound c draws fs (Scope.ofPath p) q

/-- **The four outcomes of a stylesheet's path.** With the file behind the path for its source:

* no source is found exactly if there is no such file;
* the system's failure comes exactly of a source in CSS that cannot be read as a text;
* a stylesheet is refused, under the path of the source and with the words of the one who
  refuses it, exactly if the richer language refuses the source or the transformation its CSS;
* there is a result exactly if the transformation has one: it has the path of the source and
  the scope of the path that was asked for, and an empty class map if it is plain.

No other failure occurs. A refusal is told in exactly one warning, which names the source and
the reason, and nothing else is warned of. The module fails as the stylesheet does, and its
notes are the same. -/
theorem compile_outcome (c : Config) (draws : Sass.Draws) (fs : FileSystem) (p : Path) :
    let result := compile c draws fs p
    (result.value = .error (.sourceNotFound p) ↔ source? c fs p = none)
      ∧ (∀ why, result.value = .error (.fileSystem why) ↔
        ∃ q, source? c fs p = some q ∧ Specifier.extension q ≠ ".scss".toList
          ∧ fs.readText q = .error why)
      ∧ (∀ q reason, result.value = .error (.stylesheetCompile q reason) ↔
        source? c fs p = some q
          ∧ ((Specifier.extension q = ".scss".toList ∧ Sass.compile draws fs q = .error reason)
            ∨ ∃ css filename, HasCss draws fs q css filename
              ∧ transform (Scope.ofPath p) c.classNaming c.localsConvention css filename
                = .error reason))
      ∧ (∀ s, result.value = .ok s ↔
        source? c fs p = some s.path ∧ s.scope = Scope.ofPath p
          ∧ ∃ css filename, HasCss draws fs s.path css filename
            ∧ transform s.scope c.classNaming c.localsConvention css filename
              = .ok (s.css, s.classNames))
      ∧ (∀ s, result.value = .ok s → s.scope = .plain → s.classNames = [])
      ∧ (∀ e, result.value = .error e →
        e = .sourceNotFound p ∨ (∃ why, e = .fileSystem why)
          ∨ ∃ q reason, e = .stylesheetCompile q reason)
      ∧ (warnings result.events = match result.value with
        | .error (.stylesheetCompile q reason) =>
          ["WARN jopi-loader - cannot compile ".toList ++ q ++ ": ".toList ++ reason]
        | _ => [])
      ∧ (compileModule c draws fs p).events = result.events
      ∧ ∀ e, (compileModule c draws fs p).value = .error e ↔ result.value = .error e := by
  intro result
  have hok : ∀ s, result.value = .ok s ↔
      source? c fs p = some s.path ∧ s.scope = Scope.ofPath p
        ∧ ∃ css filename, HasCss draws fs s.path css filename
          ∧ transform s.scope c.classNaming c.localsConvention css filename
            = .ok (s.css, s.classNames) := by
    refine fun s => value_compile_iff.trans
      ⟨fun h => ?_, fun ⟨hq, hscope, css, filename, hcss, hout⟩ => ?_⟩
    · obtain ⟨-, h⟩ | ⟨q, hq, h⟩ := h
      · cases h
      · cases h with
        | compiled hcss hout => exact ⟨hq, rfl, _, _, hcss, hout⟩
    · rw [hscope] at hout
      refine Or.inr ⟨s.path, hq, ?_⟩
      have hcompiled := Comes.compiled hcss hout
      rw [← hscope] at hcompiled ⊢
      exact hcompiled
  refine ⟨value_compile_iff.trans ?_, fun why => value_compile_iff.trans ?_,
    fun q reason => value_compile_iff.trans ?_, hok, fun s hs hplain => ?_, fun e he => ?_,
    warnings_compile c draws fs p, rfl, fun e => ?_⟩
  · -- Whatever comes of a file, it is not that there is none.
    refine ⟨fun h => ?_, fun h => Or.inl ⟨h, rfl⟩⟩
    obtain ⟨h, -⟩ | ⟨q, -, h⟩ := h
    · exact h
    · cases h
  · constructor
    · intro h
      obtain ⟨-, h⟩ | ⟨q, hq, h⟩ := h
      · cases h
      · cases h with
        | unreadable ext text => exact ⟨q, hq, ext, text⟩
    · rintro ⟨q, hq, ext, text⟩
      exact Or.inr ⟨q, hq, .unreadable ext text⟩
  · constructor
    · intro h
      obtain ⟨-, h⟩ | ⟨q', hq, h⟩ := h
      · cases h
      · cases h with
        | untranslated ext translation => exact ⟨hq, Or.inl ⟨ext, translation⟩⟩
        | refused hcss hout => exact ⟨hq, Or.inr ⟨_, _, hcss, hout⟩⟩
    · rintro ⟨hq, ⟨ext, translation⟩ | ⟨css, filename, hcss, hout⟩⟩
      · exact Or.inr ⟨q, hq, .untranslated ext translation⟩
      · exact Or.inr ⟨q, hq, .refused hcss hout⟩
  · obtain ⟨-, -, css, filename, -, hout⟩ := (hok s).mp hs
    rw [hplain] at hout
    exact classNames_transform_plain hout
  · obtain ⟨-, h⟩ | ⟨q, -, h⟩ := value_compile_iff.mp he
    · exact Or.inl (Except.error.inj h)
    · cases h with
      | unreadable ext text => exact Or.inr (Or.inl ⟨_, rfl⟩)
      | untranslated ext translation => exact Or.inr (Or.inr ⟨_, _, rfl⟩)
      | refused hcss hout => exact Or.inr (Or.inr ⟨_, _, rfl⟩)
  · show (result.value.map (CompiledStylesheet.toModule c)) = .error e ↔ _
    cases result.value with
    | ok s => exact iff_of_false (fun h => nomatch h) (fun h => nomatch h)
    | error why =>
      exact ⟨fun h => congrArg _ (Except.error.inj h), fun h => congrArg _ (Except.error.inj h)⟩

end Stylesheet

end ModuleHooks
