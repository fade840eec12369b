import ModuleHooks.Plugin
import ModuleHooks.Proofs.Path.Extension
import ModuleHooks.Proofs.Specifier.Extension
/-!
# A stylesheet and its source

A stylesheet that is missing is compiled from its source, but its scope is told
from the name on the import, not from that of the source. The two names must
therefore agree on the scope, or a module would be another one when the source
is imported by its own path.

They do, because the locator changes nothing that the scope is told from. A
candidate has the stem of the missing file, whatever directory it stands in, and
an extension of stylesheets (`exists_of_mem_candidates`); and the scope of a
stylesheet is told from the end of its stem (`ofPath_of_fileName?`). So
compiling a path is compiling its source (`compile_source`).

Two compilations are two runs, and what a source in the richer language draws by
lot is drawn anew in each of them. All that the second run needs is that it reads
the source as the first one does (`ReadAlike`). Two runs read a source in CSS
alike, and one that draws nothing; they need not read one alike that draws.
-/

namespace ModuleHooks

namespace Scope

/-- **The extensions of stylesheets**, as files have them. -/
def IsStylesheetExtension (e : Text) : Prop := e = "css".toList ∨ e = "scss".toList

/-- **The name of a stylesheet** is a step that does not lead up: it is too long to be one of the
two names of directories. -/
theorem isStep_append_cons {stem e : Text} (hslash : '/' ∉ stem) (he : IsStylesheetExtension e) :
    Path.IsStep (stem ++ '.' :: e) ∧ stem ++ '.' :: e ≠ ['.', '.'] := by
  have hlong : 4 ≤ (stem ++ '.' :: e).length := by
    rcases he with rfl | rfl <;> simp
  have hne : ∀ t : Text, t.length < 4 → stem ++ '.' :: e ≠ t := by
    rintro t ht rfl
    omega
  refine ⟨⟨Path.isIdle_eq_false_iff.mpr ⟨hne _ (by decide), hne _ (by decide)⟩, fun hmem => ?_⟩,
    hne _ (by decide)⟩
  rcases List.mem_append.mp hmem with hmem | hmem
  · exact hslash hmem
  · rcases he with rfl | rfl <;> exact absurd hmem (by decide)

/-- A file name ends like that of a CSS Module exactly if its stem does. -/
theorem any_endsWith_moduleSuffixes {e : Text} (he : IsStylesheetExtension e) (stem : Text) :
    (moduleSuffixes.any (Text.endsWith (stem ++ '.' :: e))) = Text.endsWith stem ".module" := by
  rcases he with rfl | rfl
  · simp [moduleSuffixes, Text.endsWith, List.isSuffixOf]
  · simp [moduleSuffixes, Text.endsWith, List.isSuffixOf]

/-- **The scope of a stylesheet is told from its stem.** -/
theorem ofPath_of_fileName? {p : Path} {stem ext : Text}
    (hext : IsStylesheetExtension (Text.lowerAscii ext))
    (h : Path.fileName? p = some (stem ++ '.' :: ext)) :
    ofPath p = if Text.endsWith (Text.lowerAscii stem) ".module" then .scoped else .plain := by
  have hlower : Text.lowerAscii (stem ++ '.' :: ext)
      = Text.lowerAscii stem ++ '.' :: Text.lowerAscii ext := List.map_append
  rw [ofPath, h, Option.getD_some, hlower, any_endsWith_moduleSuffixes hext]

end Scope

namespace Locator

variable {l : Locator} {missing candidate : Path} {stem ext : Text}

/-- **A candidate is the stem of the missing file with an extension of
stylesheets**, in some directory. -/
theorem exists_of_mem_candidates (hext : Scope.IsStylesheetExtension (Text.lowerAscii ext))
    (hdot : '.' ∉ ext) (hstem : stem ≠ [])
    (hname : Path.fileName? missing = some (stem ++ '.' :: ext))
    (h : candidate ∈ l.candidates missing) :
    ∃ dir e, Scope.IsStylesheetExtension e ∧ candidate = Path.join dir (stem ++ '.' :: e) := by
  have hparts : Path.partName (stem ++ '.' :: ext) = (stem, some ext) :=
    Path.partName_append_cons hstem hdot
  have hextension : Path.extension? missing = some ext := by
    rw [Path.extension?, hname, Option.bind_some, hparts]
  have hstem? : Path.stem? missing = some stem := by
    rw [Path.stem?, hname, Option.map_some, hparts]
  rw [candidates, hstem?, hextension, Option.getD_some] at h
  obtain ⟨dir, -, h⟩ := List.mem_flatMap.mp h
  obtain ⟨e, he, rfl⟩ := List.mem_map.mp h
  have he : Scope.IsStylesheetExtension e := by
    unfold extensions at he
    rcases hext with hlower | hlower
    · rw [hlower, if_pos rfl, List.mem_pair] at he
      exact he
    · rw [hlower, if_neg (by decide), if_pos rfl, List.mem_pair] at he
      exact he.symm
  refine ⟨dir, e, he, ?_⟩
  have hne : e ≠ [] := by
    rcases he with rfl | rfl <;> decide
  rw [named, if_neg hne]

/-- **A candidate for a missing stylesheet has its scope.** -/
theorem ofPath_of_mem_candidates (hext : Scope.IsStylesheetExtension (Text.lowerAscii ext))
    (hdot : '.' ∉ ext) (hstem : stem ≠ []) (hslash : '/' ∉ stem)
    (hname : Path.fileName? missing = some (stem ++ '.' :: ext))
    (h : candidate ∈ l.candidates missing) : Scope.ofPath candidate = Scope.ofPath missing := by
  obtain ⟨dir, e, he, rfl⟩ := exists_of_mem_candidates hext hdot hstem hname h
  have hlower : Text.lowerAscii e = e := by
    rcases he with rfl | rfl <;> decide
  obtain ⟨hstep, habove⟩ := Scope.isStep_append_cons hslash he
  have hfile : Path.fileName? (Path.join dir (stem ++ '.' :: e)) = some (stem ++ '.' :: e) :=
    Path.fileName?_of_steps (Path.steps_join_of_isStep dir hstep) habove
  rw [Scope.ofPath_of_fileName? (hlower.symm ▸ he) hfile, Scope.ofPath_of_fileName? hext hname]

end Locator

namespace Stylesheet

variable {c : Config} {draws draws' : Sass.Draws} {fs : FileSystem} {p q : Path}

/-! ## The source of a path -/

/-- A file is its own source. -/
theorem value_findSource_of_isFile (h : fs.isFile p = true) :
    (findSource c fs p).value = .ok p := by
  rw [findSource, if_pos h]
  rfl

/-- **A source is a file**: the path itself, or the first candidate there is. -/
theorem source_cases (h : (findSource c fs p).value = .ok q) :
    fs.isFile q = true ∧ (q = p ∨ q ∈ (Locator.ofConfig c).candidates p) := by
  unfold findSource at h
  split_ifs at h with hp
  · cases h
    exact ⟨hp, Or.inl rfl⟩
  · split at h
    · next source hsource =>
      cases h
      exact ⟨List.find?_some hsource, Or.inr (List.mem_of_find?_eq_some hsource)⟩
    · cases h

/-- **The source of a stylesheet has the scope of the stylesheet.** -/
theorem ofPath_source
    (hp : Specifier.extension p = ".css".toList ∨ Specifier.extension p = ".scss".toList)
    (h : (findSource c fs p).value = .ok q) : Scope.ofPath q = Scope.ofPath p := by
  obtain ⟨e, he, hextension⟩ : ∃ e, Scope.IsStylesheetExtension e
      ∧ Specifier.extension p = '.' :: e := by
    rcases hp with hp | hp
    · exact ⟨_, Or.inl rfl, hp⟩
    · exact ⟨_, Or.inr rfl, hp⟩
  have hne : e ≠ [] := by
    rcases he with rfl | rfl <;> decide
  obtain ⟨stem, ext, hstem, hslash, hdot, hlower, hname⟩ :=
    Specifier.exists_fileName?_of_extension hextension hne
  rcases (source_cases h).2 with rfl | hmem
  · rfl
  · exact Locator.ofPath_of_mem_candidates (hlower.symm ▸ he) hdot hstem hslash hname hmem

/-! ## Two runs -/

/-- **Two runs read a stylesheet alike**: if it is in the richer language, the same comes of it
with what is drawn in either. -/
def ReadAlike (fs : FileSystem) (draws draws' : Sass.Draws) (p : Path) : Prop :=
  isSass p = true → Sass.compile draws fs p = Sass.compile draws' fs p

namespace ReadAlike

theorem refl (fs : FileSystem) (draws : Sass.Draws) (p : Path) : ReadAlike fs draws draws p :=
  fun _ => rfl

/-- Nothing is drawn for CSS. -/
theorem of_not_isSass (h : isSass p = false) : ReadAlike fs draws draws' p := by
  intro hsass
  rw [h] at hsass
  cases hsass

/-- A source that draws nothing is read alike in all runs. -/
theorem of_settled? {r : List Sass.Remark × Except Sass.Fault Text}
    (h : (Sass.evaluation fs p).settled? = some r) : ReadAlike fs draws draws' p :=
  fun _ => Sass.compile_of_settled? h draws draws'

theorem readCss_eq (h : ReadAlike fs draws draws' p) :
    readCss draws fs p = readCss draws' fs p := by
  unfold readCss
  split_ifs with hsass
  · rw [h hsass]
  · rfl

/-- **A source that is read alike is compiled alike**, with the same notes. -/
theorem compileFound_eq (h : ReadAlike fs draws draws' p) (scope : Scope) :
    compileFound c draws fs scope p = compileFound c draws' fs scope p := by
  rw [compileFound, compileFound, compileFile, compileFile, h.readCss_eq]

/-- A stylesheet whose source is read alike is compiled alike. -/
theorem compile_eq (h : ∀ q, (findSource c fs p).value = .ok q → ReadAlike fs draws draws' q) :
    compile c draws fs p = compile c draws' fs p := by
  rw [compile, compile]
  unfold Logged.andThen
  cases hsource : (findSource c fs p).value with
  | error why => rfl
  | ok q => simp only [(h q hsource).compileFound_eq]

end ReadAlike

/-! ## Compiling -/

/-- What is compiled is the source, in the scope of the path. -/
theorem value_compile (h : (findSource c fs p).value = .ok q) :
    (compile c draws fs p).value = (compileFound c draws fs (Scope.ofPath p) q).value := by
  rw [compile, Logged.value_andThen, h]

/-- Nothing is compiled without a source. -/
theorem value_compile_of_error {why : LoaderError} (h : (findSource c fs p).value = .error why) :
    (compile c draws fs p).value = .error (.sourceNotFound p) := by
  have hwhy : why = .sourceNotFound p := by
    unfold findSource at h
    split_ifs at h
    · cases h
    · split at h <;> cases h
      rfl
  rw [compile, Logged.value_andThen, h, hwhy, Logged.value_silent]

/-- A compiled stylesheet remembers the file it was compiled from. -/
theorem path_of_compileFound {scope : Scope} {s : CompiledStylesheet}
    (h : (compileFound c draws fs scope q).value = .ok s) : s.path = q := by
  unfold compileFound at h
  rw [Logged.value_noted] at h
  split at h
  · next hcompiled =>
    cases h
    unfold compileFile at hcompiled
    split at hcompiled
    · cases hcompiled
    · cases hcompiled
    · split at hcompiled <;> cases hcompiled
      rfl
  · cases h
  · cases h

/-- A stylesheet that does not compile is told by the file that was tried. -/
theorem eq_of_compileFound_error {scope : Scope} {q' : Path} {reason : Text}
    (h : (compileFound c draws fs scope q).value = .error (.stylesheetCompile q' reason)) :
    q' = q := by
  unfold compileFound at h
  rw [Logged.value_noted] at h
  split at h <;> cases h
  rfl

/-- **Compiling a stylesheet is compiling its source**, in any run that reads the source alike. -/
theorem value_compile_source
    (hp : Specifier.extension p = ".css".toList ∨ Specifier.extension p = ".scss".toList)
    (h : (findSource c fs p).value = .ok q) (halike : ReadAlike fs draws draws' q) :
    (compile c draws' fs q).value = (compile c draws fs p).value := by
  have hq : (findSource c fs q).value = .ok q := value_findSource_of_isFile (source_cases h).1
  rw [value_compile hq, value_compile h, ofPath_source hp h, halike.compileFound_eq]

/-- A stylesheet with a result of its own has a source. -/
theorem exists_source (h : (compile c draws fs p).value ≠ .error (.sourceNotFound p)) :
    ∃ q, (findSource c fs p).value = .ok q := by
  cases hsource : (findSource c fs p).value with
  | ok q => exact ⟨q, rfl⟩
  | error why => exact absurd (value_compile_of_error hsource) h

theorem value_compileModule :
    (compileModule c draws fs p).value
      = (compile c draws fs p).value.map (CompiledStylesheet.toModule c) :=
  rfl

/-- **Where a stylesheet is imported from does not matter**, only which file it
is compiled from.

Compiling the file that was compiled, or that failed to compile, gives the same
compiled stylesheet or the same failure, and the same module; and two paths with
the same source have the same module or fail alike. All this is about two runs
that read the file alike: it is in CSS, or the same comes of it with what is
drawn by lot in either run. -/
theorem compile_source {c : Config} {fs : FileSystem} {p : Path} (draws draws' : Sass.Draws)
    (hp : Specifier.extension p = ".css".toList ∨ Specifier.extension p = ".scss".toList) :
    (∀ s, (compile c draws fs p).value = .ok s → ReadAlike fs draws draws' s.path →
        (compile c draws' fs s.path).value = .ok s
          ∧ (compileModule c draws' fs s.path).value = (compileModule c draws fs p).value)
      ∧ (∀ q reason, (compile c draws fs p).value = .error (.stylesheetCompile q reason) →
        ReadAlike fs draws draws' q →
        (compile c draws' fs q).value = .error (.stylesheetCompile q reason)
          ∧ (compileModule c draws' fs q).value = (compileModule c draws fs p).value)
      ∧ (∀ p' q, (Specifier.extension p' = ".css".toList
            ∨ Specifier.extension p' = ".scss".toList) →
        (findSource c fs p).value = .ok q → (findSource c fs p').value = .ok q →
        ReadAlike fs draws draws' q →
        (compileModule c draws fs p).value = (compileModule c draws' fs p').value) := by
  refine ⟨fun s hs halike => ?_, fun q reason hreason halike => ?_,
    fun p' q hp' hq hq' halike => ?_⟩
  · obtain ⟨q, hq⟩ := exists_source (p := p) (by rw [hs]; exact fun h => by cases h)
    obtain rfl : s.path = q := path_of_compileFound ((value_compile hq).symm.trans hs)
    have hsame := value_compile_source hp hq halike
    exact ⟨hsame.trans hs, by rw [value_compileModule, value_compileModule, hsame]⟩
  · obtain ⟨q', hq'⟩ := exists_source (p := p) (by rw [hreason]; exact fun h => by cases h)
    obtain rfl : q = q' := eq_of_compileFound_error ((value_compile hq').symm.trans hreason)
    have hsame := value_compile_source hp hq' halike
    exact ⟨hsame.trans hreason, by rw [value_compileModule, value_compileModule, hsame]⟩
  · rw [value_compileModule, value_compileModule, ← value_compile_source hp hq halike,
      value_compile_source hp' hq' (ReadAlike.refl fs draws' q)]

/-- A project whose stylesheets were not copied into the build output. One of them is
broken off after its first word, one is in the richer language, and one of that language
draws a number. -/
def uncopied : FileSystem where
  nodes := [(["app".toList], .directory), (["app".toList, "src".toList], .directory),
    (["app".toList, "src".toList, "button.module.css".toList],
      .file (Text.utf8 "/* to be styled */".toList)),
    (["app".toList, "src".toList, "page.css".toList], .file (Text.utf8 "body".toList)),
    (["app".toList, "src".toList, "list.scss".toList],
      .file (Text.utf8 "$i: 1; li \x7b order: $i + 1 \x7d".toList)),
    (["app".toList, "src".toList, "dice.scss".toList],
      .file (Text.utf8 "li \x7b order: random(6) \x7d".toList))]

/-- **The law at a build output**: the two names that lead to the authored file have its
module, in runs with different draws, and so have the two names of a source that draws nothing.
The broken stylesheet fails where it stands as it does on the import. -/
theorem compile_source_uncopied :
    (∃ s, (compile {} Sass.noughts uncopied "/app/dist/button.module.scss".toList).value = .ok s
        ∧ s.path = "/app/src/button.module.css".toList
        ∧ (compile {} (fun n => n) uncopied s.path).value = .ok s
        ∧ (compileModule {} Sass.noughts uncopied "/app/dist/button.module.scss".toList).value
          = (compileModule {} (fun n => n) uncopied "/app/dist/button.module.css".toList).value)
      ∧ (compileModule {} Sass.noughts uncopied "/app/dist/list.css".toList).value
        = (compileModule {} (fun n => n) uncopied "/app/dist/list.scss".toList).value
      ∧ ∃ reason, (compile {} (fun n => n) uncopied "/app/src/page.css".toList).value
        = .error (.stylesheetCompile "/app/src/page.css".toList reason) := by
  have hscss : Specifier.extension "/app/dist/button.module.scss".toList = ".scss".toList := by
    decide
  have hcss : Specifier.extension "/app/dist/button.module.css".toList = ".css".toList := by
    decide
  have hpage : Specifier.extension "/app/dist/page.css".toList = ".css".toList := by
    decide
  have hlist : Specifier.extension "/app/dist/list.css".toList = ".css".toList := by
    decide
  have hlist' : Specifier.extension "/app/dist/list.scss".toList = ".scss".toList := by
    decide
  obtain ⟨law, -, same⟩ := @compile_source {} uncopied _ Sass.noughts (fun n => n) (Or.inr hscss)
  obtain ⟨-, fails, -⟩ := @compile_source {} uncopied _ Sass.noughts (fun n => n) (Or.inl hpage)
  obtain ⟨-, -, sameList⟩ := @compile_source {} uncopied _ Sass.noughts (fun n => n) (Or.inl hlist)
  have hs : (compile {} Sass.noughts uncopied "/app/dist/button.module.scss".toList).value
      = .ok ⟨"/app/src/button.module.css".toList, .scoped, "\n".toList, []⟩ := by
    decide +kernel
  have hbroken : (compile {} Sass.noughts uncopied "/app/dist/page.css".toList).value
      = .error (.stylesheetCompile "/app/src/page.css".toList
        "Unexpected end of input at /app/src/page.css:0:5".toList) := by
    decide +kernel
  have hsettled : (Sass.evaluation uncopied "/app/src/list.scss".toList).settled?.isSome
      = true := by
    decide +kernel
  obtain ⟨r, hr⟩ := Option.isSome_iff_exists.mp hsettled
  have hbutton : ReadAlike uncopied Sass.noughts (fun n => n) "/app/src/button.module.css".toList :=
    .of_not_isSass (by decide)
  exact ⟨⟨_, hs, rfl, (law _ hs hbutton).1,
      same "/app/dist/button.module.css".toList "/app/src/button.module.css".toList (Or.inl hcss)
        (by decide +kernel) (by decide +kernel) hbutton⟩,
    sameList "/app/dist/list.scss".toList "/app/src/list.scss".toList (Or.inr hlist')
      (by decide +kernel) (by decide +kernel) (.of_settled? hr),
    _, (fails _ _ hbroken (.of_not_isSass (by decide))).1⟩

/-- Two runs need not read a source alike that draws. -/
example : ¬ ReadAlike uncopied Sass.noughts (fun n => n + 1) "/app/src/dice.scss".toList :=
  fun h => absurd (h (by decide)) (by decide +kernel)

end Stylesheet

end ModuleHooks
