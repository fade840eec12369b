import ModuleHooks.Proofs.Path.Components
import ModuleHooks.Proofs.Stylesheet.Outcome
/-!
# Where the source of a stylesheet is looked for

A stylesheet that is missing is looked for in at most two directories: the one it was imported
from, and the one in the sources that this was built from. In each of them two names are tried.
The order of the four is what the locator promises, so that a sibling wins over a mirrored file
and the extension of the import over its counterpart (`find?_first_file`).

Both directories are told by their components, since the mirrored one is put together from them.
It has the components of the directory, with the last output directory among them, and no other,
replaced by those of the source directory (`inSources?_replaces_last`).

The extension is tried in lower case. On a system that keeps capitals apart, a source with the very
name of the import is therefore missed when that name has a capital in its extension, unless
another of the names happens to be there (`find?_source_of_same_name`).
-/

namespace ModuleHooks.Locator

open ModuleHooks.Path (Component components IsStep)

variable {l : Locator} {fs : FileSystem} {p dir source : Path} {src stem ext : Text}
  {order : List Text}

/-! ## The last output directory -/

theorem splitAtLast?_eq_none_iff {f : Component → Bool} {cs : List Component} :
    splitAtLast? f cs = none ↔ ∀ c ∈ cs, f c = false := by
  induction cs with
  | nil => simp [splitAtLast?]
  | cons c cs ih =>
    rw [List.forall_mem_cons, ← ih, splitAtLast?]
    cases hrest : splitAtLast? f cs with
    | some x => simp
    | none => cases hc : f c <;> simp

/-- **The last component of a kind** has none of the kind behind it. -/
theorem eq_of_splitAtLast? {f : Component → Bool} {cs before after : List Component}
    (h : splitAtLast? f cs = some (before, after)) :
    ∃ c, f c = true ∧ cs = before ++ c :: after ∧ ∀ d ∈ after, f d = false := by
  induction cs generalizing before with
  | nil => cases h
  | cons c cs ih =>
    rw [splitAtLast?] at h
    cases hrest : splitAtLast? f cs with
    | some x =>
      rw [hrest] at h
      cases h
      obtain ⟨d, hd, rfl, hafter⟩ := ih hrest
      exact ⟨d, hd, rfl, hafter⟩
    | none =>
      rw [hrest] at h
      dsimp only at h
      split_ifs at h with hc
      cases h
      exact ⟨c, hc, rfl, splitAtLast?_eq_none_iff.mp hrest⟩

theorem isOutput_eq_true_iff {c : Component} :
    l.isOutput c = true ↔ ∃ name ∈ l.outputDirs, c = .normal name := by
  cases c with
  | normal name => simp [isOutput]
  | root => simp [isOutput]
  | current => simp [isOutput]
  | parent => simp [isOutput]

/-- No output directory is among some components exactly if no name among them is one of its
names. -/
theorem forall_isOutput_eq_false_iff {cs : List Component} :
    (∀ c ∈ cs, l.isOutput c = false) ↔ ∀ name, .normal name ∈ cs → name ∉ l.outputDirs := by
  simp only [← Bool.not_eq_true, isOutput_eq_true_iff]
  constructor
  · exact fun h name hmem hname => h _ hmem ⟨name, hname, rfl⟩
  · rintro h c hc ⟨name, hname, rfl⟩
    exact h name hc hname

/-! ## Putting components together again -/

/-- Appending components of steps, one after the other, appends them. -/
theorem components_extend {cs : List Component} (h : ∀ c ∈ cs, ∃ s, IsStep s ∧ c = .ofStep s)
    (dir : Path) : components (extend dir cs) = components dir ++ cs := by
  induction cs generalizing dir with
  | nil => rw [List.append_nil]; rfl
  | cons c cs ih =>
    obtain ⟨⟨s, hs, rfl⟩, hcs⟩ := List.forall_mem_cons.mp h
    show components (extend (Path.join dir (Component.ofStep s).text) cs) = _
    rw [ih hcs, Component.text_ofStep, Path.components_join_of_isStep hs, List.append_assoc]
    rfl

/-- **Components at the front of a path are put together to a path with them.** -/
theorem components_extend_nil {before after : List Component}
    (h : components p = before ++ after) : components (extend [] before) = before := by
  cases before with
  | nil => rfl
  | cons c before =>
    have hc : components c.text = [c] :=
      Path.components_text (p := p) (h ▸ List.mem_cons_self)
    have hbefore : ∀ d ∈ before, ∃ s, IsStep s ∧ d = .ofStep s := fun d hd =>
      Path.exists_isStep_of_mem_tail (p := p) (h ▸ List.mem_append_left after hd)
    show components (extend (Path.join [] c.text) before) = c :: before
    rw [components_extend hbefore, Path.nil_join, hc]
    rfl

/-! ## The directories that are searched -/

theorem inSources?_eq_none_iff :
    l.inSources? dir = none ↔ ∀ name, .normal name ∈ components dir → name ∉ l.outputDirs := by
  rw [inSources?, Option.map_eq_none_iff, splitAtLast?_eq_none_iff, forall_isOutput_eq_false_iff]

/-- **The directory in the sources** has the components of the directory, with the last output
directory replaced by the components of the source directory. -/
theorem exists_of_inSources? (hsource : (Path.dissect l.sourceDir).1 = .none)
    (h : l.inSources? dir = some source) :
    ∃ before name after, components dir = before ++ .normal name :: after ∧ name ∈ l.outputDirs
      ∧ (∀ other, .normal other ∈ after → other ∉ l.outputDirs)
      ∧ components source = before ++ components l.sourceDir ++ after := by
  obtain ⟨⟨before, after⟩, hsplit, rfl⟩ := Option.map_eq_some_iff.mp h
  obtain ⟨c, hc, hdir, hafter⟩ := eq_of_splitAtLast? hsplit
  obtain ⟨name, hname, rfl⟩ := isOutput_eq_true_iff.mp hc
  refine ⟨before, name, after, hdir, hname, forall_isOutput_eq_false_iff.mp hafter, ?_⟩
  have hsteps : ∀ d ∈ after, ∃ s, IsStep s ∧ d = .ofStep s := by
    refine fun d hd => Path.exists_isStep_of_mem_tail (p := dir) ?_
    rw [hdir]
    cases before with
    | nil => exact hd
    | cons b before => exact List.mem_append_right before (List.mem_cons_of_mem _ hd)
  rw [components_extend hsteps, Path.components_join hsource, components_extend_nil hdir]

/-- **The last output directory on the way to a directory**, with the components before and after
it. -/
structure LastOutput (l : Locator) (dir : Path) (before : List Component) (name : Text)
    (after : List Component) : Prop where
  /-- It is a component of the directory. -/
  split : components dir = before ++ .normal name :: after
  /-- It is the name of an output directory. -/
  output : name ∈ l.outputDirs
  /-- There is none after it. -/
  last : ∀ other, .normal other ∈ after → other ∉ l.outputDirs

/-- Only one of the output directories on the way is the last one. -/
theorem LastOutput.unique {before before' after after' : List Component} {name name' : Text}
    (h : LastOutput l dir before name after) (h' : LastOutput l dir before' name' after') :
    before = before' ∧ name = name' ∧ after = after' := by
  have hsplit : before ++ .normal name :: after = before' ++ .normal name' :: after' :=
    h.split.symm.trans h'.split
  rcases List.append_eq_append_iff.mp hsplit with ⟨more, rfl, hmore⟩ | ⟨more, rfl, hmore⟩
  · cases more with
    | nil => simpa using hmore
    | cons c more =>
      -- The second one would be behind the first one.
      obtain ⟨-, rfl⟩ := List.cons_eq_cons.mp hmore
      exact absurd h'.output (h.last name' (by simp))
  · cases more with
    | nil => simpa [eq_comm] using hmore
    | cons c more =>
      obtain ⟨-, rfl⟩ := List.cons_eq_cons.mp hmore
      exact absurd h.output (h'.last name (by simp))

/-- **The last output directory is replaced, and nothing else.** Let the source directory be one or
more names. There is no directory in the sources if no name on the way is that of an output
directory, and else its components are those before the last such name, the source directory and
those after it. -/
theorem inSources?_replaces_last {names : List Text} (hne : names ≠ [])
    (hsource : components l.sourceDir = names.map .normal) (dir : Path) :
    (l.inSources? dir = none ↔ ∀ name, .normal name ∈ components dir → name ∉ l.outputDirs)
      ∧ (∀ source, l.inSources? dir = some source → ∃ before name after,
        LastOutput l dir before name after
          ∧ components source = before ++ components l.sourceDir ++ after)
      ∧ ∀ before name after, LastOutput l dir before name after → ∃ source,
        l.inSources? dir = some source
          ∧ components source = before ++ components l.sourceDir ++ after := by
  obtain ⟨src, names, rfl⟩ := List.exists_cons_of_ne_nil hne
  have hreplaced : ∀ source, l.inSources? dir = some source → ∃ before name after,
      LastOutput l dir before name after
        ∧ components source = before ++ components l.sourceDir ++ after := by
    intro source h
    obtain ⟨before, name, after, hsplit, hname, hlast, hcomponents⟩ :=
      exists_of_inSources? (Path.fst_dissect_of_components hsource) h
    exact ⟨before, name, after, ⟨hsplit, hname, hlast⟩, hcomponents⟩
  refine ⟨inSources?_eq_none_iff, hreplaced, fun before name after h => ?_⟩
  cases hsome : l.inSources? dir with
  | none =>
    have hmem : .normal name ∈ components dir := by
      rw [h.split]
      exact List.mem_append_right before List.mem_cons_self
    exact absurd h.output (inSources?_eq_none_iff.mp hsome name hmem)
  | some source =>
    obtain ⟨before', name', after', h', hcomponents⟩ := hreplaced source hsome
    obtain ⟨rfl, rfl, rfl⟩ := h.unique h'
    exact ⟨source, rfl, hcomponents⟩

/-- **The law for a directory with two output directories** on the way, written with slashes and
dots that do not count, and a source directory of two names: the second one gives way to it. -/
theorem inSources?_replaces_last_twice :
    let l : Locator := ⟨["dist".toList], "packages//src/".toList⟩
    let dir : Path := "../dist//a/./dist/b/../c/".toList
    ∃ source, l.inSources? dir = some source
      ∧ components source = [.parent, .normal "dist".toList, .normal "a".toList,
        .normal "packages".toList, .normal "src".toList,
        .normal "b".toList, .parent, .normal "c".toList]
      ∧ l.inSources? "/app/../.dist".toList = none := by
  intro l dir
  have hsource : components l.sourceDir = ["packages".toList, "src".toList].map .normal := by decide
  obtain ⟨-, -, hsome⟩ := inSources?_replaces_last (List.cons_ne_nil _ _) hsource dir
  obtain ⟨hnone, -, -⟩ :=
    inSources?_replaces_last (List.cons_ne_nil _ _) hsource "/app/../.dist".toList
  have hlast : LastOutput l dir [.parent, .normal "dist".toList, .normal "a".toList] "dist".toList
      [.normal "b".toList, .parent, .normal "c".toList] :=
    ⟨by decide +kernel, by decide, forall_isOutput_eq_false_iff.mp (by decide)⟩
  obtain ⟨source, hsource', hcomponents⟩ := hsome _ _ _ hlast
  refine ⟨source, hsource', ?_, hnone.mpr (forall_isOutput_eq_false_iff.mp (by decide +kernel))⟩
  rw [hcomponents, hsource]
  rfl

/-- **The directories in which a file of a directory is looked for**: the directory, and, if there
is an output directory on the way to it, the directory with the last of them replaced by a source
directory of one name. -/
inductive Searched (l : Locator) (src : Text) (dir : Path) : List Path → Prop where
  /-- No output directory is on the way. -/
  | here (noOutput : ∀ name, .normal name ∈ components dir → name ∉ l.outputDirs) :
      Searched l src dir [dir]
  /-- There are some, and the last of them is replaced. -/
  | mirrored {source : Path} {before after : List Component} {name : Text}
      (split : components dir = before ++ .normal name :: after)
      (output : name ∈ l.outputDirs)
      (last : ∀ other, .normal other ∈ after → other ∉ l.outputDirs)
      (replaced : components source = before ++ .normal src :: after) :
      Searched l src dir [dir, source]

theorem directories_of_parent? (h : Path.parent? p = some dir) :
    l.directories p = dir :: (l.inSources? dir).toList := by
  rw [directories, h]
  cases hsource : l.inSources? dir with
  | none => simp only [hsource, Option.toList_none]
  | some source => simp only [hsource, Option.toList_some]

theorem searched_directories (hsrc : components l.sourceDir = [.normal src])
    (hparent : Path.parent? p = some dir) : Searched l src dir (l.directories p) := by
  rw [directories_of_parent? hparent]
  cases hsource : l.inSources? dir with
  | none => exact .here (inSources?_eq_none_iff.mp hsource)
  | some source =>
    obtain ⟨before, name, after, hsplit, hname, hlast, hreplaced⟩ :=
      exists_of_inSources? (Path.fst_dissect_of_components hsrc) hsource
    refine .mirrored hsplit hname hlast ?_
    rw [hreplaced, hsrc, List.append_assoc]
    rfl

/-! ## The names that are tried -/

/-- **The path of a stylesheet, in parts**: the directory it is in, the stem and the extension of
its name, and the extensions of stylesheets in the order in which they are tried for it, its own
in front. -/
structure IsSheet (p dir : Path) (stem ext : Text) (order : List Text) : Prop where
  /-- The directory is the path without its last component. -/
  parent : Path.parent? p = some dir
  /-- The last component is the stem, a dot and the extension. -/
  parts : components p = components dir ++ [.normal (stem ++ '.' :: ext)]
  /-- There is something in front of the dot. -/
  stem_ne : stem ≠ []
  /-- The dot is the last one. -/
  last_dot : '.' ∉ ext
  /-- The extension is one of the two, in any case. -/
  own_first : (Text.lowerAscii ext = "css".toList ∧ order = ["css".toList, "scss".toList])
    ∨ (Text.lowerAscii ext = "scss".toList ∧ order = ["scss".toList, "css".toList])

namespace IsSheet

/-- **A path with an extension of stylesheets is that of a stylesheet.** -/
theorem of_extension
    (hp : Specifier.extension p = ".css".toList ∨ Specifier.extension p = ".scss".toList) :
    ∃ dir stem ext order, IsSheet p dir stem ext order ∧ '/' ∉ stem := by
  obtain ⟨e, he, hextension⟩ : ∃ e, Scope.IsStylesheetExtension e
      ∧ Specifier.extension p = '.' :: e := by
    rcases hp with hp | hp
    · exact ⟨_, Or.inl rfl, hp⟩
    · exact ⟨_, Or.inr rfl, hp⟩
  have hne : e ≠ [] := by
    rcases he with rfl | rfl <;> decide
  obtain ⟨stem, ext, hstem, hslash, hdot, rfl, hname⟩ :=
    Specifier.exists_fileName?_of_extension hextension hne
  obtain ⟨dir, hparent, hparts⟩ := Path.exists_parent?_of_fileName? hname
  rcases he with he | he
  · exact ⟨dir, stem, ext, _, ⟨hparent, hparts, hstem, hdot, Or.inl ⟨he, rfl⟩⟩, hslash⟩
  · exact ⟨dir, stem, ext, _, ⟨hparent, hparts, hstem, hdot, Or.inr ⟨he, rfl⟩⟩, hslash⟩

variable (h : IsSheet p dir stem ext order)

include h

theorem fileName? : Path.fileName? p = some (stem ++ '.' :: ext) := by
  rw [Path.fileName?, h.parts, List.getLast?_concat]

theorem extensions_eq : extensions (Text.lowerAscii ext) = order := by
  obtain ⟨hext, rfl⟩ | ⟨hext, rfl⟩ := h.own_first
  · rw [hext]
    rfl
  · rw [hext]
    rfl

theorem mem_order_iff {e : Text} : e ∈ order ↔ e = "css".toList ∨ e = "scss".toList := by
  obtain ⟨-, rfl⟩ | ⟨-, rfl⟩ := h.own_first
  · exact List.mem_pair
  · rw [List.mem_pair, or_comm]

/-- A name that is tried is one component. -/
theorem components_join (hslash : '/' ∉ stem) {e : Text} (he : e ∈ order) (d : Path) :
    components (Path.join d (stem ++ '.' :: e))
      = components d ++ [.normal (stem ++ '.' :: e)] := by
  obtain ⟨hstep, habove⟩ := Scope.isStep_append_cons hslash (h.mem_order_iff.mp he)
  rw [Path.components_join_of_isStep hstep, Component.ofStep, if_neg habove]

/-- **The candidates for a stylesheet.** -/
theorem candidates_eq (l : Locator) :
    l.candidates p = (l.directories p).flatMap fun d =>
      order.map fun e => Path.join d (stem ++ '.' :: e) := by
  have hparts := Path.partName_append_cons h.stem_ne h.last_dot
  have hstem? : Path.stem? p = some stem := by
    rw [Path.stem?, h.fileName?, Option.map_some, hparts]
  have hextension : Path.extension? p = some ext := by
    rw [Path.extension?, h.fileName?, Option.bind_some, hparts]
  rw [candidates, hstem?, hextension]
  show (l.directories p).flatMap (fun d => (extensions (Text.lowerAscii ext)).map _) = _
  rw [h.extensions_eq]
  refine List.flatMap_congr fun d _ => List.map_congr_left fun e he => ?_
  have hne : e ≠ [] := by
    rcases h.mem_order_iff.mp he with rfl | rfl <;> decide
  rw [named, if_neg hne]

end IsSheet

/-! ## The first file there is -/

/-- **The first file of some paths**: a file, with none among the paths in front of it. -/
def IsFirstFile (fs : FileSystem) (paths : List Path) (c : Path) : Prop :=
  ∃ before after, paths = before ++ c :: after ∧ fs.isFile c = true
    ∧ ∀ q ∈ before, fs.isFile q = false

theorem find?_isFile_eq_some_iff {paths : List Path} {c : Path} :
    paths.find? fs.isFile = some c ↔ IsFirstFile fs paths c := by
  rw [List.find?_eq_some_iff_append]
  simp only [Bool.not_eq_true']
  constructor
  · rintro ⟨hc, before, after, hsplit, hbefore⟩
    exact ⟨before, after, hsplit, hc, hbefore⟩
  · rintro ⟨before, after, hsplit, hc, hbefore⟩
    exact ⟨hc, before, after, hsplit, hbefore⟩

theorem find?_isFile_eq_none_iff {paths : List Path} :
    paths.find? fs.isFile = none ↔ ∀ q ∈ paths, fs.isFile q = false := by
  simp only [List.find?_eq_none, Bool.not_eq_true]

/-- The file behind a path where there is none is what the locator finds. -/
theorem source?_of_not_isFile {c : Config} (h : fs.isFile p = false) :
    Stylesheet.source? c fs p = (ofConfig c).find? fs p := by
  rw [Stylesheet.source?, h, if_neg Bool.false_ne_true]
  rfl

/-- **A path has no source** exactly if there is no file behind it. -/
theorem value_compile_eq_sourceNotFound_iff {c : Config} :
    (Stylesheet.compile c draws fs p).value = .error (.sourceNotFound p) ↔
      Stylesheet.source? c fs p = none := by
  refine Stylesheet.value_compile_iff.trans ⟨fun h => ?_, fun h => Or.inl ⟨h, rfl⟩⟩
  obtain ⟨h, -⟩ | ⟨q, -, h⟩ := h
  · exact h
  · cases h

/-- **The source location law**, for a locator whose source directory is a single name and a path
with an extension of stylesheets, in any case.

The path is a directory, a stem, a dot and an extension. The directories to search are that
directory and, if there is an output directory on the way to it, the one with the last of them
replaced by the source directory and everything before and behind it kept. In each of them the
stem is tried with the extension of the path, in lower case, and then with the other one. What is
found is the first file in this order, and nothing is found exactly if there is no file; a
stylesheet that is not where its path says is looked for in this way, or there is no source for
it. -/
theorem find?_first_file (hsrc : components l.sourceDir = [.normal src])
    (hp : Specifier.extension p = ".css".toList ∨ Specifier.extension p = ".scss".toList)
    (fs : FileSystem) :
    ∃ dir stem ext order dirs, IsSheet p dir stem ext order ∧ Searched l src dir dirs
      ∧ (∀ d ∈ dirs, ∀ e ∈ order, components (Path.join d (stem ++ '.' :: e))
          = components d ++ [.normal (stem ++ '.' :: e)])
      ∧ let tried := dirs.flatMap fun d => order.map fun e => Path.join d (stem ++ '.' :: e)
        (∀ c, l.find? fs p = some c ↔ IsFirstFile fs tried c)
          ∧ (l.find? fs p = none ↔ ∀ q ∈ tried, fs.isFile q = false)
          ∧ ∀ config, ofConfig config = l → fs.isFile p = false →
            (∀ c, (Stylesheet.findSource config fs p).value = .ok c ↔ IsFirstFile fs tried c)
              ∧ ((Stylesheet.findSource config fs p).value = .error (.sourceNotFound p) ↔
                ∀ q ∈ tried, fs.isFile q = false) := by
  obtain ⟨dir, stem, ext, order, hsheet, hslash⟩ := IsSheet.of_extension hp
  refine ⟨dir, stem, ext, order, _, hsheet, searched_directories hsrc hsheet.parent,
    fun d _ e he => hsheet.components_join hslash he d, ?_⟩
  intro tried
  have hfind : l.find? fs p = tried.find? fs.isFile := by
    rw [find?, hsheet.candidates_eq]
  have hsome : ∀ c, l.find? fs p = some c ↔ IsFirstFile fs tried c := fun c => by
    rw [hfind, find?_isFile_eq_some_iff]
  have hnone : l.find? fs p = none ↔ ∀ q ∈ tried, fs.isFile q = false := by
    rw [hfind, find?_isFile_eq_none_iff]
  refine ⟨hsome, hnone, ?_⟩
  rintro config rfl hmissing
  rw [← hnone, Stylesheet.value_findSource, source?_of_not_isFile hmissing]
  simp only [← hsome]
  cases (ofConfig config).find? fs p with
  | some source => simp
  | none => simp

/-- **The law at a build output**: for a module asked for in capitals nothing is beside it, and of
its two names in the sources the second one is there. -/
theorem find?_first_file_uncopied :
    ∃ (dirs : List Path) (order : List Text),
      Searched (ofConfig {}) "src".toList "/app/dist".toList dirs ∧ dirs.length = 2
      ∧ IsFirstFile Stylesheet.uncopied
        (dirs.flatMap fun d => order.map fun e => Path.join d ("button.module".toList ++ '.' :: e))
        "/app/src/button.module.css".toList := by
  obtain ⟨dir, stem, ext, order, dirs, hsheet, hdirs, -, hsome, -⟩ :=
    find?_first_file (show components (ofConfig {}).sourceDir = [.normal "src".toList] by decide)
      (p := "/app/dist/button.module.SCSS".toList) (Or.inr (by decide)) Stylesheet.uncopied
  have hfound := (hsome "/app/src/button.module.css".toList).mp (by decide +kernel)
  obtain rfl : "/app/dist".toList = dir := Option.some.inj (hsheet.parent ▸ by decide +kernel)
  obtain rfl : "button.module".toList = stem := by
    have hstem := Path.partName_append_cons hsheet.stem_ne hsheet.last_dot
    have hname : Path.fileName? "/app/dist/button.module.SCSS".toList
      = some "button.module.SCSS".toList := by decide +kernel
    rw [hsheet.fileName?] at hname
    rw [Option.some.inj hname] at hstem
    exact congrArg Prod.fst ((by decide +kernel : ("button.module".toList, some "SCSS".toList)
      = Path.partName "button.module.SCSS".toList).trans hstem)
  refine ⟨dirs, order, hdirs, ?_, hfound⟩
  cases hdirs with
  | here noOutput =>
    exact absurd (noOutput "dist".toList (by decide +kernel)) (by decide +kernel)
  | mirrored => rfl

/-! ## A source with the name of the import -/

/-- **A source with the very name of a missing stylesheet** is found if the extension is in lower
case. What is looked for are the names with an extension in lower case, so that with a capital in
the extension it depends on one of these being there too, and without one there is no source. -/
theorem find?_source_of_same_name {c : Config} {draws : Sass.Draws}
    (hsheet : IsSheet p dir stem ext order)
    (hsource : (ofConfig c).inSources? dir = some source)
    (hfile : fs.isFile (Path.join source (stem ++ '.' :: ext)) = true)
    (hmissing : fs.isFile p = false) :
    let found := ∃ d, (d = dir ∨ d = source) ∧ ∃ e, (e = "css".toList ∨ e = "scss".toList)
      ∧ fs.isFile (Path.join d (stem ++ '.' :: e)) = true
    (Text.lowerAscii ext = ext → found) ∧ ((ofConfig c).find? fs p ≠ none ↔ found)
      ∧ ((Stylesheet.compile c draws fs p).value = .error (.sourceNotFound p) ↔ ¬found) := by
  intro found
  have hdirs : (ofConfig c).directories p = [dir, source] := by
    rw [directories_of_parent? hsheet.parent, hsource]
    rfl
  have hfound : (ofConfig c).find? fs p ≠ none ↔ found := by
    rw [find?, hsheet.candidates_eq, hdirs, Ne, find?_isFile_eq_none_iff, not_forall]
    constructor
    · rintro ⟨q, hq⟩
      obtain ⟨hmem, hq⟩ := Classical.not_imp.mp hq
      obtain ⟨d, hd, hmem⟩ := List.mem_flatMap.mp hmem
      obtain ⟨e, he, rfl⟩ := List.mem_map.mp hmem
      exact ⟨d, List.mem_pair.mp hd, e, hsheet.mem_order_iff.mp he, Bool.eq_true_of_not_eq_false hq⟩
    · rintro ⟨d, hd, e, he, hq⟩
      refine ⟨Path.join d (stem ++ '.' :: e), Classical.not_imp.mpr ⟨?_, ?_⟩⟩
      · exact List.mem_flatMap_of_mem (List.mem_pair.mpr hd)
          (List.mem_map_of_mem (hsheet.mem_order_iff.mpr he))
      · rw [hq]
        exact Bool.true_eq_false_eq_False
  refine ⟨fun hlower => ?_, hfound, ?_⟩
  · refine ⟨source, Or.inr rfl, ext, ?_, hfile⟩
    rw [← hlower]
    exact hsheet.own_first.imp And.left And.left
  · rw [value_compile_eq_sourceNotFound_iff, source?_of_not_isFile hmissing, ← hfound, not_not]

/-- A project with a stylesheet whose extension is written in capitals, and nothing copied into
the build output. -/
def shouted : FileSystem where
  nodes := [(["app".toList], .directory), (["app".toList, "src".toList], .directory),
    (["app".toList, "src".toList, "page.CSS".toList], .file (Text.utf8 "a \x7b\x7d".toList))]

/-- **A source that is missed**: the name of the import is in the sources, and only that. -/
theorem find?_source_of_same_name_shouted :
    shouted.isFile "/app/src/page.CSS".toList = true
      ∧ shouted.isFile "/app/dist/page.CSS".toList = false
      ∧ (ofConfig {}).find? shouted "/app/dist/page.CSS".toList = none
      ∧ (Stylesheet.compile {} Sass.noughts shouted "/app/dist/page.CSS".toList).value
        = .error (.sourceNotFound "/app/dist/page.CSS".toList) := by
  have hfile : shouted.isFile "/app/src/page.CSS".toList = true := by decide +kernel
  have hmissing : shouted.isFile "/app/dist/page.CSS".toList = false := by decide +kernel
  have hsheet : IsSheet "/app/dist/page.CSS".toList "/app/dist".toList "page".toList "CSS".toList
      ["css".toList, "scss".toList] :=
    ⟨by decide +kernel, by decide +kernel, by decide, by decide, Or.inl (by decide)⟩
  have hsource : (ofConfig {}).inSources? "/app/dist".toList = some "/app/src".toList := by
    decide +kernel
  obtain ⟨-, hfound, hcompile⟩ := find?_source_of_same_name hsheet hsource hfile hmissing
  have hnone : ¬∃ d, (d = "/app/dist".toList ∨ d = "/app/src".toList)
      ∧ ∃ e, (e = "css".toList ∨ e = "scss".toList)
        ∧ shouted.isFile (Path.join d ("page".toList ++ '.' :: e)) = true := by
    rintro ⟨d, rfl | rfl, e, rfl | rfl, h⟩ <;> exact absurd h (by decide +kernel)
  exact ⟨hfile, hmissing, not_not.mp (mt hfound.mp hnone), hcompile.mpr hnone⟩

end ModuleHooks.Locator
