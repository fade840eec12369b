import ModuleHooks.Proofs.Import.StrictHost
/-!
# Package imports in front of the strict host

After a failure of a package import the hook looks for files beside the *URL*
of the failure, but what it asks the host for is an edited *specifier*. The two
agree as long as the URL is told from the specifier by writing things one after
the other, which is the case for a path inside the package. It is not the case
where the manifest of the package decides: the URL then follows the entry of
the manifest, while the edited specifier is either a path inside the package,
next to its root, or the name of another package.

`Reaches` is the exact condition for the file that was found to be the one that
is answered with (`resolve_package_iff`).
-/

namespace ModuleHooks.Import

open ModuleHooks.Path StrictHost

/-- **The file that is found beside the URL of a failure.** -/
inductive Found (fs : FileSystem) : ResolveError → Path → Prop where
  /-- The first candidate in a directory that is a regular file. -/
  | entry {asked : Text} {url : Url} {dir : Path} {before after : List Text} {file : Text}
      (leads : url.toFilePath? = some dir)
      (candidates : ["index.js".toList, (Path.fileName? dir).getD [] ++ ".cjs.js".toList,
        (Path.fileName? dir).getD [] ++ ".js".toList] = before ++ file :: after)
      (absent : ∀ other ∈ before, fs.isFile (Path.join dir other) = false)
      (present : fs.isFile (Path.join dir file) = true) :
      Found fs (.directoryImport asked url) (Path.join dir file)
  /-- The script beside a missing module. -/
  | script {asked : Text} {url : Url} {path : Path} (leads : url.toFilePath? = some path)
      (present : fs.isFile (path ++ ".js".toList) = true) :
      Found fs (.moduleNotFound asked (some url)) (path ++ ".js".toList)

/-- **When the edited specifier reaches the file that was found.** A path inside
the package does so unless it names no segment of its own at the end. Without a
path inside the package, an entry that is a directory must be the package
directory itself, and an entry that is missing must happen to be found as the
entry of the package whose name has the extension. -/
def Reaches (fs : FileSystem) (parent : Option Url) (specifier : Text)
    (package : PackageSpecifier) (c : Path) : ResolveError → Prop
  | .directoryImport _ _ =>
    match package.subpath with
    | some sub => ∃ d ∈ sub, d ≠ '/'
    | none => ∃ dir, nearestPackage fs parent package.name = some dir
      ∧ Path.components (packageEntry fs dir) = Path.components dir
  | _ =>
    match package.subpath with
    | some sub => Text.lastPiece (· == '/') sub ≠ [] ∧ Text.lastPiece (· == '/') sub ≠ ['.']
    | none => specifier = package.name
      ∧ ∃ dir, nearestPackage fs parent (package.name ++ ".js".toList) = some dir
        ∧ (Url.ofFilePath? (packageEntry fs dir)).bind Url.toFilePath? = some c

/-! ## The second question -/

section Questions

variable {fs : FileSystem} {context : ResolveContext} {name : Text} {c : Path}

/-- **The answer to a question is the file.** -/
def AnswersWith (fs : FileSystem) (context : ResolveContext) (asked : Text) (c : Path) : Prop :=
  ∃ m : ResolvedModule, (StrictHost.resolve fs asked context).mapError LoaderError.resolve = .ok m
    ∧ m.url.toFilePath? = some c

/-- **A question is answered with a file** exactly when it leads there. -/
theorem answersWith_iff {again : Text} {subpath : Option Text} {dir : Path}
    (hname : IsBareName name) (hunder : IsUnder name again)
    (hlookup : Builtin.lookup again = .unrelated)
    (hparse : PackageSpecifier.parse again = some ⟨name, subpath⟩)
    (hnear : nearestPackage fs context.parentUrl name = some dir) (hc : fs.isFile c = true) :
    AnswersWith fs context again c ↔ Url.settle (packageTarget fs dir subpath) = c := by
  obtain ⟨url, -, hpath, hanswer⟩ := resolvePackage_of_nearestPackage hparse hnear
  rw [AnswersWith, resolve_of_isUnder hname hunder hlookup, hanswer]
  constructor
  · rintro ⟨m, hm, hmc⟩
    cases hresult : resolveUrl fs again url with
    | error why => rw [hresult] at hm; cases hm
    | ok m' =>
      rw [hresult] at hm
      cases hm
      obtain ⟨path, -, -, -, -, rfl⟩ := eq_of_resolveUrl hresult
      exact Option.some_inj.mp (hpath.symm.trans hmc)
  · intro hsettle
    rw [hsettle] at hpath
    exact ⟨_, by rw [resolveUrl_of_isFile hpath hc]; rfl, hpath⟩

/-- Without a package of the name nothing is answered. -/
theorem not_answersWith {again : Text} (hname : IsBareName name) (hunder : IsUnder name again)
    (hlookup : Builtin.lookup again = .unrelated) {subpath : Option Text}
    (hparse : PackageSpecifier.parse again = some ⟨name, subpath⟩)
    (hnear : nearestPackage fs context.parentUrl name = none) :
    ¬AnswersWith fs context again c := by
  rintro ⟨m, hm, -⟩
  rw [resolve_of_isUnder hname hunder hlookup,
    resolvePackage_of_nearestPackage_none hparse hnear] at hm
  cases hm

end Questions

/-! ## Steps of what is found -/

section Steps

variable {fs : FileSystem} {dir : Path} {file : Text}

/-- A text that ends in `.js` is a step, and its own in a settled path. -/
theorem isStep_append_js {front : Text} (h : '/' ∉ front) : IsStep (front ++ ".js".toList) := by
  refine ⟨isIdle_eq_false_iff.mpr ⟨by simp, fun heq => ?_⟩, fun hmem => ?_⟩
  · have hlength := congrArg List.length heq
    simp at hlength
  · rcases List.mem_append.mp hmem with hmem | hmem
    · exact h hmem
    · exact absurd hmem (by decide)

/-- One more step behind the steps of a path. -/
theorem isStep_of_mem_steps_append {p : Path} {last : Text} (h : IsStep last) :
    ∀ s ∈ steps p ++ [last], IsStep s :=
  List.forall_mem_append.mpr
    ⟨fun _ hs => isStep_of_mem_steps hs, List.forall_mem_singleton.mpr h⟩

theorem settle_of_steps_append_js {p : Path} {names : List Text} {front : Text}
    (h : steps p = names ++ [front ++ ".js".toList]) :
    Url.settle p = rooted (names ++ [front ++ ".js".toList]) := by
  rw [← h]
  refine Url.settle_of_getLast (s := front ++ ".js".toList) (c := 's') ?_ ?_ (by decide) (by decide)
  · rw [h, List.getLast?_concat]
  · show (front ++ (['.', 'j'] ++ ['s'])).getLast? = some 's'
    rw [← List.append_assoc, List.getLast?_concat]

/-- Candidates are scripts with a plain name or with that of the directory. -/
theorem exists_of_mem_candidates (h : file ∈ directoryCandidates dir) :
    ∃ front, '/' ∉ front ∧ file = front ++ ".js".toList := by
  have hbase : '/' ∉ (fileName? dir).getD [] := by
    rw [fileName?_eq]
    cases hlast : (steps dir).getLast?.filter (· ≠ ['.', '.']) with
    | none => exact List.not_mem_nil
    | some s =>
      have hmem := List.mem_of_getLast? (Option.filter_eq_some_iff.mp hlast).1
      exact (isStep_of_mem_steps hmem).2
  simp only [directoryCandidates, List.mem_cons, List.not_mem_nil, or_false] at h
  rcases h with rfl | rfl | rfl
  · exact ⟨"index".toList, by decide, rfl⟩
  · refine ⟨(fileName? dir).getD [] ++ ".cjs".toList, fun hmem => ?_, ?_⟩
    · rcases List.mem_append.mp hmem with hmem | hmem
      · exact hbase hmem
      · exact absurd hmem (by decide)
    · rw [List.append_assoc]
      rfl
  · exact ⟨_, hbase, rfl⟩

/-- **Nothing at a settled path but a script beside it**: then the path has a
last step, and the script is that step with the extension. -/
theorem exists_of_isFile_append_js {p : Path} (hnone : fs.node? (Url.settle p) = none)
    (hfile : fs.isFile (Url.settle p ++ ".js".toList) = true) :
    ∃ names last, steps p = names ++ [last] ∧ IsStep last
      ∧ (∀ s ∈ names ++ [last ++ ".js".toList], IsStep s)
      ∧ Url.settle p ++ ".js".toList = rooted (names ++ [last ++ ".js".toList]) := by
  -- The path does not end in a slash, for a directory would stand there.
  have hslash : ∀ q, Url.settle p ≠ q ++ ['/'] := by
    intro q hq
    have habsolute := Url.isAbsolute_settle p
    rw [hq, List.append_assoc] at hfile
    rw [hq] at habsolute hnone
    have hdirectory := FileSystem.isDirectory_of_isFile habsolute (by decide) hfile
    rw [FileSystem.isDirectory_iff, hnone] at hdirectory
    cases hdirectory
  have hsettle : Url.settle p = rooted (steps p) :=
    (Url.closeDrive_eq_or (rooted (steps p))).resolve_right (fun h => hslash _ h)
  rcases List.eq_nil_or_concat' (steps p) with hnil | ⟨names, last, hlast⟩
  · exact absurd (hsettle.trans (by rw [hnil]; rfl)) (hslash [])
  have hsteps : ∀ s ∈ names ++ [last], IsStep s := fun s hs => isStep_of_mem_steps (hlast ▸ hs)
  obtain ⟨hnames, hlastStep⟩ := List.forall_mem_append.mp hsteps
  have hlastStep : IsStep last := List.forall_mem_singleton.mp hlastStep
  refine ⟨names, last, hlast, hlastStep, ?_, by rw [hsettle, hlast, rooted_concat_append]⟩
  exact List.forall_mem_append.mpr
    ⟨hnames, List.forall_mem_singleton.mpr (isStep_append_js hlastStep.2)⟩

end Steps

/-! ## Trimmed specifiers -/

/-- A name of a package is what is left of it and slashes. -/
theorem trimEnd_append_slashes {name : Text} (hname : IsBareName name) {slashes : Text}
    (h : ∀ c ∈ slashes, (c == '/') = true) : Text.trimEnd (· == '/') (name ++ slashes) = name := by
  obtain ⟨first, d, rfl, hd⟩ := hname.isPackageName.exists_concat
  rw [Text.trimEnd_append h, Text.trimEnd_concat (by simpa using hd)]

/-- A file in the directory that a path inside the package names. -/
theorem extendDirectory_append_slashes (name stem : Text) {d : Char} (hd : (d == '/') = false)
    {slashes : Text} (h : ∀ c ∈ slashes, (c == '/') = true) (file : Text) :
    extendDirectory (name ++ '/' :: (stem ++ [d] ++ slashes)) file
      = name ++ '/' :: (stem ++ [d] ++ '/' :: file) := by
  have hassoc : name ++ '/' :: (stem ++ [d] ++ slashes)
      = (name ++ '/' :: stem) ++ [d] ++ slashes := by
    simp
  have hend : Text.trimEnd (· == '/') ((name ++ '/' :: stem) ++ [d])
      = (name ++ '/' :: stem) ++ [d] := Text.trimEnd_concat (c := d) hd _
  rw [extendDirectory, hassoc, Text.trimEnd_append h, hend]
  simp

/-! ## The four ways to fail -/

section Failures

variable {fs : FileSystem} {context : ResolveContext} {name sub : Text} {dir c : Path}
  (hname : IsBareName name) (hnear : nearestPackage fs context.parentUrl name = some dir)

include hname hnear

/-- Steps below the directory of a package. -/
theorem steps_ne_nil_of_nearestPackage : steps dir ≠ [] := by
  obtain ⟨above, -, rfl⟩ := exists_of_nearestPackage hnear
  have hrelative : isAbsolute name = false := by
    have hhead := isRelative_of_isUnder hname (Or.inl rfl)
    by_contra habsolute
    obtain ⟨r, rfl⟩ := exists_of_isAbsolute (by simpa using habsolute)
    simp [isRelative, Text.startsWith] at hhead
  rw [packageDirectory, steps_join hrelative, steps_join (by decide),
    steps_of_isStep (s := "node_modules".toList) (by decide)]
  simp

/-- **A question behind the name of the package** is about the path inside it. -/
theorem answersWith_subpath_iff {rest : Text} (front : Text) (hrest : rest = front ++ ".js".toList)
    (hc : fs.isFile c = true) :
    AnswersWith fs context (name ++ '/' :: rest) c ↔ Url.settle (join dir rest) = c := by
  have hunder : IsUnder name (name ++ '/' :: rest) := Or.inr ⟨rest, rfl⟩
  have hlookup : Builtin.lookup (name ++ '/' :: rest) = .unrelated :=
    lookup_of_isUnder_append hname hunder (name ++ '/' :: front) (by simp [hrest])
  have hparse : PackageSpecifier.parse (name ++ '/' :: rest) = some ⟨name, some rest⟩ := by
    have hne : rest ≠ [] := hrest ▸ List.append_ne_nil_of_right_ne_nil front (by decide)
    rw [PackageSpecifier.parse_append_cons hname.isPackageName, PackageSpecifier.subpath?,
      if_neg hne]
  exact answersWith_iff hname hunder hlookup hparse hnear hc

/-- **The entry of the package is a directory**: the candidate is asked for at
the root of the package. -/
theorem answersWith_entry_iff {front : Text} (hfront : '/' ∉ front)
    (hc : fs.isFile (join (Url.settle (packageEntry fs dir)) (front ++ ".js".toList)) = true) :
    AnswersWith fs context (name ++ '/' :: (front ++ ".js".toList))
        (join (Url.settle (packageEntry fs dir)) (front ++ ".js".toList))
      ↔ components (packageEntry fs dir) = components dir := by
  have hstep := isStep_append_js hfront
  have hfile : isAbsolute (front ++ ".js".toList) = false := isAbsolute_of_notMem hstep.2
  have hdir : isAbsolute dir = true := isAbsolute_of_nearestPackage hnear
  have hentry : isAbsolute (packageEntry fs dir) = true := isAbsolute_packageTarget hdir none
  rw [answersWith_subpath_iff hname hnear front rfl hc, components_eq_iff hentry hdir,
    Url.join_settle _ hfile, settle_of_steps_append_js (steps_join_of_isStep dir hstep),
    rooted_inj (isStep_of_mem_steps_append hstep) (isStep_of_mem_steps_append hstep),
    List.append_left_inj]
  exact eq_comm

/-- A path inside the package that consists of slashes is the root, but what is
asked for stands in the package. -/
theorem not_answersWith_of_slashes {front : Text} (hfront : '/' ∉ front)
    (hc : fs.isFile (join (Url.settle (join dir sub)) (front ++ ".js".toList)) = true)
    (hsub : sub ≠ []) (hslashes : ∀ d ∈ sub, d = '/') :
    ¬AnswersWith fs context (extendDirectory (name ++ '/' :: sub) (front ++ ".js".toList))
      (join (Url.settle (join dir sub)) (front ++ ".js".toList)) := by
  have hstep := isStep_append_js hfront
  have hroot : join dir sub = sub := by
    obtain ⟨d, r, rfl⟩ := List.exists_cons_of_ne_nil hsub
    obtain ⟨rfl, -⟩ := List.forall_mem_cons.mp hslashes
    exact join_of_isAbsolute rfl dir
  have htrim : extendDirectory (name ++ '/' :: sub) (front ++ ".js".toList)
      = name ++ '/' :: (front ++ ".js".toList) := by
    rw [extendDirectory, trimEnd_append_slashes hname]
    exact List.forall_mem_cons.mpr ⟨rfl, fun d hd => beq_iff_eq.mpr (hslashes d hd)⟩
  rw [Url.join_settle _ (isAbsolute_of_notMem hstep.2)] at hc ⊢
  rw [htrim, answersWith_subpath_iff hname hnear front rfl hc, hroot,
    settle_of_steps_append_js (steps_join_of_isStep dir hstep),
    rooted_inj (isStep_of_mem_steps_append hstep) (isStep_of_mem_steps_append hstep),
    List.append_left_inj, steps_of_forall_slash hslashes]
  exact steps_ne_nil_of_nearestPackage hname hnear

/-- The slashes at the end of a path inside the package are all that is
trimmed. -/
theorem answersWith_of_slashes {front : Text} (hfront : '/' ∉ front) {stem slashes : Text}
    {d : Char} (hd : (d == '/') = false) (hslashes : ∀ d ∈ slashes, (d == '/') = true)
    (hsub : sub = stem ++ [d] ++ slashes)
    (hc : fs.isFile (join (Url.settle (join dir sub)) (front ++ ".js".toList)) = true) :
    AnswersWith fs context (extendDirectory (name ++ '/' :: sub) (front ++ ".js".toList))
      (join (Url.settle (join dir sub)) (front ++ ".js".toList)) := by
  have hstep := isStep_append_js hfront
  have hkept : stem ++ [d] ≠ [] := List.append_ne_nil_of_right_ne_nil _ (List.cons_ne_nil _ _)
  have hsteps : steps (join dir (stem ++ [d] ++ '/' :: (front ++ ".js".toList)))
      = steps (join dir sub) ++ [front ++ ".js".toList] := by
    rw [hsub, steps_join_append_slashes dir hkept fun c hc => beq_iff_eq.mp (hslashes c hc),
      steps_join_append_cons dir hkept, steps_of_isStep hstep]
  rw [Url.join_settle _ (isAbsolute_of_notMem hstep.2)] at hc ⊢
  have hasked : extendDirectory (name ++ '/' :: sub) (front ++ ".js".toList)
      = name ++ '/' :: (stem ++ [d] ++ '/' :: (front ++ ".js".toList)) := by
    rw [hsub, extendDirectory_append_slashes name stem hd hslashes]
  rw [hasked, answersWith_subpath_iff hname hnear (stem ++ [d] ++ '/' :: front) (by simp) hc,
    settle_of_steps_append_js hsteps]

/-- **A path inside the package is a directory**: the candidate is asked for
inside it, unless the path consists of slashes and is the root. -/
theorem answersWith_entry_subpath_iff {front : Text} (hfront : '/' ∉ front)
    (hc : fs.isFile (join (Url.settle (join dir sub)) (front ++ ".js".toList)) = true)
    (hsub : sub ≠ []) :
    AnswersWith fs context (extendDirectory (name ++ '/' :: sub) (front ++ ".js".toList))
        (join (Url.settle (join dir sub)) (front ++ ".js".toList))
      ↔ ∃ d ∈ sub, d ≠ '/' := by
  obtain ⟨post, hsplit, hpost, hkept⟩ := Text.exists_eq_trimEnd_append (· == '/') sub
  rcases hkept with hnil | ⟨stem, d, hkept, hd⟩
  · rw [hnil, List.nil_append] at hsplit
    have hslashes : ∀ d ∈ sub, d = '/' := fun d hd => beq_iff_eq.mp (hpost d (hsplit ▸ hd))
    refine iff_of_false (not_answersWith_of_slashes hname hnear hfront hc hsub hslashes) ?_
    rintro ⟨d, hd, hne⟩
    exact hne (hslashes d hd)
  · rw [hkept] at hsplit
    refine iff_of_true (answersWith_of_slashes hname hnear hfront hd hpost hsplit hc) ⟨d, ?_, ?_⟩
    · rw [hsplit]
      simp
    · simpa using hd

/-- **A path inside the package is missing**: the script beside it is asked for,
unless the path ends in no segment of its own. -/
theorem answersWith_script_subpath_iff (hnone : fs.node? (Url.settle (join dir sub)) = none)
    (hc : fs.isFile (Url.settle (join dir sub) ++ ".js".toList) = true) :
    AnswersWith fs context (name ++ '/' :: sub ++ ".js".toList)
        (Url.settle (join dir sub) ++ ".js".toList)
      ↔ Text.lastPiece (· == '/') sub ≠ [] ∧ Text.lastPiece (· == '/') sub ≠ ['.'] := by
  set last := Text.lastPiece (· == '/') sub with hlast
  have hslash : '/' ∉ last := Text.notMem_lastPiece '/' sub
  have hstep := isStep_append_js hslash
  -- Both paths have the same steps in front of what follows the last slash.
  obtain ⟨front, hfront⟩ := exists_steps_join dir sub
  rw [← hlast] at hfront
  have hsteps : steps (join dir (sub ++ ".js".toList)) = front ++ [last ++ ".js".toList] := by
    rw [hfront _ (by decide), steps_of_isStep hstep]
  have hplain := hfront [] List.not_mem_nil
  rw [List.append_nil, List.append_nil] at hplain
  have hfrontStep : ∀ s ∈ front ++ [last ++ ".js".toList], IsStep s := fun s hs =>
    isStep_of_mem_steps (hsteps ▸ hs)
  obtain ⟨names, final, hnames, -, hnamesStep, hpath⟩ := exists_of_isFile_append_js hnone hc
  rw [List.append_assoc, List.cons_append, answersWith_subpath_iff hname hnear sub rfl hc,
    settle_of_steps_append_js hsteps, hpath, rooted_inj hfrontStep hnamesStep,
    ← isIdle_eq_false_iff]
  rw [hnames] at hplain
  cases hidle : isIdle last with
  | true =>
    rw [steps_of_isIdle hidle, List.append_nil] at hplain
    rw [← hplain]
    refine iff_of_false (fun heq => ?_) Bool.false_ne_true.symm
    have hlength := congrArg List.length heq
    simp at hlength
  | false =>
    rw [steps_of_isStep ⟨hidle, hslash⟩] at hplain
    obtain ⟨rfl, hfinal⟩ := List.append_inj' hplain rfl
    rw [List.singleton_inj.mp hfinal]
    exact iff_of_true rfl rfl

omit hnear in
/-- **The entry of the package is missing**: the package whose name has the
extension is asked for. -/
theorem answersWith_script_name_iff (hc : fs.isFile c = true) :
    AnswersWith fs context (name ++ ".js".toList) c
      ↔ ∃ dir', nearestPackage fs context.parentUrl (name ++ ".js".toList) = some dir'
        ∧ (Url.ofFilePath? (packageEntry fs dir')).bind Url.toFilePath? = some c := by
  have hname' : IsBareName (name ++ ".js".toList) := hname.append_js
  have hunder : IsUnder (name ++ ".js".toList) (name ++ ".js".toList) := Or.inl rfl
  have hlookup := lookup_of_isUnder_append hname' hunder name rfl
  have hparse := PackageSpecifier.parse_of_isPackageName hname'.isPackageName
  cases hnear' : nearestPackage fs context.parentUrl (name ++ ".js".toList) with
  | none =>
    refine iff_of_false (not_answersWith hname' hunder hlookup hparse hnear') ?_
    rintro ⟨dir', hdir', -⟩
    cases hdir'
  | some dir' =>
    have hentry : (Url.ofFilePath? (packageEntry fs dir')).bind Url.toFilePath?
        = some (Url.settle (packageEntry fs dir')) := by
      have habsolute : isAbsolute (packageEntry fs dir') = true :=
        isAbsolute_packageTarget (isAbsolute_of_nearestPackage hnear') none
      have hurl := Url.ofFilePath?_of_isAbsolute habsolute
      rw [hurl]
      exact Url.toFilePath?_ofFilePath? hurl
    rw [answersWith_iff hname' hunder hlookup hparse hnear' hc]
    constructor
    · exact fun hsettle => ⟨dir', rfl, hentry.trans (congrArg some hsettle)⟩
    · rintro ⟨_, hdir', hpath⟩
      cases hdir'
      exact Option.some_inj.mp (hentry.symm.trans hpath)

/-- With a slash behind the name, a nameless script at the root of the package
is asked for. -/
theorem not_answersWith_script_slash {entry : Path} (hnone : fs.node? (Url.settle entry) = none)
    (hc : fs.isFile (Url.settle entry ++ ".js".toList) = true) :
    ¬AnswersWith fs context (name ++ ['/'] ++ ".js".toList)
      (Url.settle entry ++ ".js".toList) := by
  have hstep : IsStep ([] ++ ".js".toList) := isStep_append_js List.not_mem_nil
  have hsteps : steps (join dir ".js".toList) = steps dir ++ [[] ++ ".js".toList] :=
    steps_join_of_isStep dir hstep
  obtain ⟨names, final, -, hfinal, hnamesStep, hpath⟩ := exists_of_isFile_append_js hnone hc
  have hassoc : name ++ ['/'] ++ ".js".toList = name ++ '/' :: ".js".toList := by simp
  rw [hassoc, answersWith_subpath_iff hname hnear [] (List.nil_append _).symm hc,
    settle_of_steps_append_js hsteps, hpath,
    rooted_inj (isStep_of_mem_steps_append hstep) hnamesStep]
  intro heq
  have hlast := (List.append_inj' heq rfl).2
  rw [List.singleton_inj, List.append_left_inj] at hlast
  exact (isIdle_eq_false_iff.mp hfinal.1).1 hlast.symm

/-- **Whatever is missing**, the script beside it is answered with exactly
under `Reaches`. -/
theorem answersWith_script_iff_reaches {specifier asked : Text} {subpath : Option Text}
    {url : Option Url} (hparse : PackageSpecifier.parse specifier = some ⟨name, subpath⟩)
    (hnone : fs.node? (Url.settle (packageTarget fs dir subpath)) = none)
    (hc : fs.isFile (Url.settle (packageTarget fs dir subpath) ++ ".js".toList) = true) :
    AnswersWith fs context (specifier ++ ".js".toList)
        (Url.settle (packageTarget fs dir subpath) ++ ".js".toList)
      ↔ Reaches fs context.parentUrl specifier ⟨name, subpath⟩
        (Url.settle (packageTarget fs dir subpath) ++ ".js".toList)
        (.moduleNotFound asked url) := by
  rcases PackageSpecifier.subpath_cases_of_parse hparse with
    ⟨rfl, rfl | rfl⟩ | ⟨sub, hsub, rfl, rfl⟩
  · exact (answersWith_script_name_iff hname hc).trans (iff_and_self.mpr fun _ => rfl)
  · refine iff_of_false (not_answersWith_script_slash hname hnear hnone hc) ?_
    rintro ⟨hslash, -⟩
    have hlength := congrArg List.length hslash
    simp at hlength
  · exact answersWith_script_subpath_iff hname hnear hnone hc

/-- **Whatever is a directory**, the candidate in it is answered with exactly
under `Reaches`. -/
theorem answersWith_entry_iff_reaches {specifier asked file : Text} {subpath : Option Text}
    {url : Url} (hparse : PackageSpecifier.parse specifier = some ⟨name, subpath⟩)
    (hfile : file ∈ directoryCandidates (Url.settle (packageTarget fs dir subpath)))
    (hc : fs.isFile (join (Url.settle (packageTarget fs dir subpath)) file) = true) :
    AnswersWith fs context (extendDirectory specifier file)
        (join (Url.settle (packageTarget fs dir subpath)) file)
      ↔ Reaches fs context.parentUrl specifier ⟨name, subpath⟩
        (join (Url.settle (packageTarget fs dir subpath)) file) (.directoryImport asked url) := by
  obtain ⟨front, hfront, rfl⟩ := exists_of_mem_candidates hfile
  rcases PackageSpecifier.subpath_cases_of_parse hparse with ⟨rfl, hs⟩ | ⟨sub, hsub, rfl, rfl⟩
  · -- The slash that may stand behind the name is trimmed away.
    have htrim : Text.trimEnd (· == '/') specifier = name := by
      rcases hs with rfl | rfl
      · have hnil := trimEnd_append_slashes hname (List.forall_mem_nil _)
        rwa [List.append_nil] at hnil
      · exact trimEnd_append_slashes hname (List.forall_mem_singleton.mpr rfl)
    rw [extendDirectory, htrim]
    refine (answersWith_entry_iff hname hnear hfront hc).trans ?_
    show _ ↔ ∃ dir', nearestPackage fs context.parentUrl name = some dir' ∧ _
    rw [hnear]
    constructor
    · exact fun h => ⟨dir, rfl, h⟩
    · rintro ⟨_, hdir', h⟩
      cases hdir'
      exact h
  · exact answersWith_entry_subpath_iff hname hnear hfront hc hsub

end Failures

/-! ## The exact condition -/

/-- **A package import reaches the file that was found beside the URL of its
failure exactly under `Reaches`.** The specifier is that of a package, not
intercepted and no module of the host, and the strict host fails on it with a
URL beside which there is a file to be found. -/
theorem resolve_package_iff {fs : FileSystem} {specifier : Text} {context : ResolveContext}
    {package : PackageSpecifier} {why : ResolveError} {c : Path}
    (hclass : (Specifier.classify specifier).isIntercepted = false)
    (hlookup : Builtin.lookup specifier = .unrelated)
    (hparse : PackageSpecifier.parse specifier = some package) (hcolon : ':' ∉ package.name)
    (hhere : package.name ≠ ['.']) (habove : package.name ≠ ['.', '.'])
    (hfirst : StrictHost.resolve fs specifier context = .error why) (hfound : Found fs why c) :
    (∃ m, (resolve fs (StrictHost.resolver fs) () specifier context).value.2 = .ok m
        ∧ m.url.toFilePath? = some c)
      ↔ Reaches fs context.parentUrl specifier package c why := by
  obtain ⟨name, subpath⟩ := package
  have hname : IsBareName name :=
    ⟨(PackageSpecifier.eq_of_parse hparse).1, hcolon, hhere, habove⟩
  have hunder : IsUnder name specifier := by
    rcases PackageSpecifier.subpath_cases_of_parse hparse with ⟨-, rfl | rfl⟩ | ⟨sub, -, -, rfl⟩
    · exact Or.inl rfl
    · exact Or.inr ⟨[], rfl⟩
    · exact Or.inr ⟨sub, rfl⟩
  have hpass := syntheticFormat?_eq_none_iff.mpr hclass
  have hlooked : StrictHost.resolve fs specifier context
      = resolvePackage fs specifier context.parentUrl :=
    resolve_of_isUnder hname hunder hlookup context
  rw [hfirst] at hlooked
  cases hnear : nearestPackage fs context.parentUrl name with
  | none =>
    rw [resolvePackage_of_nearestPackage_none hparse hnear] at hlooked
    cases hlooked
    cases hfound
  | some dir =>
    obtain ⟨url, -, hpath, hanswer⟩ := resolvePackage_of_nearestPackage hparse hnear
    rw [hanswer] at hlooked
    -- What stands at the target tells which failure it was; a file is none.
    rcases fs.node?_cases (Url.isAbsolute_settle (packageTarget fs dir subpath)) with
      hnone | ⟨-, hdirectory⟩ | ⟨-, hfile⟩
    · rw [resolveUrl_of_none hpath hnone] at hlooked
      cases hlooked
      cases hfound with
      | script leads present =>
        cases hpath.symm.trans leads
        rw [resolve_of_again hpass hfirst (.script leads present)]
        exact answersWith_script_iff_reaches hname hnear hparse hnone present
    · rw [resolveUrl_of_isDirectory hpath hdirectory] at hlooked
      cases hlooked
      cases hfound with
      | @entry _ _ _ before after file leads candidates absent present =>
        cases hpath.symm.trans leads
        rw [resolve_of_again hpass hfirst (.entry leads candidates absent present)]
        have hsplit : directoryCandidates (Url.settle (packageTarget fs dir subpath))
            = before ++ file :: after := candidates
        have hfile : file ∈ directoryCandidates (Url.settle (packageTarget fs dir subpath)) :=
          hsplit ▸ List.mem_append_right before List.mem_cons_self
        exact answersWith_entry_iff_reaches hname hnear hparse hfile present
    · rw [resolveUrl_of_isFile hpath hfile] at hlooked
      cases hlooked

/-- A package whose manifest names a directory with an entry file, and which
has another entry file at its root. -/
def packageWithDirectoryEntry : FileSystem := {
  nodes := [(["app".toList], .directory), (["app".toList, "node_modules".toList], .directory),
    (["app".toList, "node_modules".toList, "widget".toList], .directory),
    (["app".toList, "node_modules".toList, "widget".toList, "package.json".toList],
      .file (Text.utf8 "\x7b\"main\":\"lib\"\x7d")),
    (["app".toList, "node_modules".toList, "widget".toList, "index.js".toList], .file []),
    (["app".toList, "node_modules".toList, "widget".toList, "lib".toList], .directory),
    (["app".toList, "node_modules".toList, "widget".toList, "lib".toList, "index.js".toList],
      .file [])] }

/-- The entry file of the directory is found, but the one at the root of the
package is answered with. -/
theorem resolve_package_directory_entry :
    let fs := packageWithDirectoryEntry
    let context : ResolveContext := { parentUrl := Url.ofFilePath? "/app/main.js" }
    let root : List Text := ["app".toList, "node_modules".toList, "widget".toList]
    let entry := Url.fileUrl (.domain []) (root ++ ["lib".toList])
    StrictHost.resolve fs "widget" context = .error (.directoryImport "widget" entry)
      ∧ Found fs (.directoryImport "widget" entry)
        (rooted (root ++ ["lib".toList, "index.js".toList]))
      ∧ (¬∃ m, (resolve fs (StrictHost.resolver fs) () "widget" context).value.2 = .ok m
        ∧ m.url.toFilePath? = some (rooted (root ++ ["lib".toList, "index.js".toList])))
      ∧ (resolve fs (StrictHost.resolver fs) () "widget" context).value.2
        = .ok { url := Url.fileUrl (.domain []) (root ++ ["index.js".toList])
                format := some .commonJs } := by
  intro fs context root entry
  have hfirst : StrictHost.resolve fs "widget" context
      = .error (.directoryImport "widget" entry) := by
    decide +kernel
  have hfound : Found fs (.directoryImport "widget" entry)
      (rooted (root ++ ["lib".toList, "index.js".toList])) := by
    have hpath : entry.toFilePath? = some (rooted (root ++ ["lib".toList])) := by decide +kernel
    have habsent : ∀ other ∈ ([] : List Text),
        fs.isFile (join (rooted (root ++ ["lib".toList])) other) = false := by simp
    have hpresent : fs.isFile (join (rooted (root ++ ["lib".toList])) "index.js") = true := by
      decide +kernel
    exact Found.entry hpath rfl habsent hpresent
  have hmissed : ¬Reaches fs context.parentUrl "widget" ⟨"widget".toList, none⟩
      (rooted (root ++ ["lib".toList, "index.js".toList])) (.directoryImport "widget" entry) := by
    rintro ⟨dir, hdir, hentry⟩
    have hnear : nearestPackage fs context.parentUrl "widget" = some (rooted root) := by
      decide +kernel
    cases hnear.symm.trans hdir
    exact absurd hentry (by decide +kernel)
  refine ⟨hfirst, hfound, fun hreached => hmissed ?_, by decide +kernel⟩
  exact (resolve_package_iff (by decide +kernel) (by decide +kernel) (by decide +kernel)
    (by decide) (by decide) (by decide) hfirst hfound).mp hreached

end ModuleHooks.Import
