import ModuleHooks.Proofs.Import.Relative
import ModuleHooks.Proofs.Specifier.Extension
import ModuleHooks.Proofs.Url.Relative
/-!
# A slash at the end of a specifier

Whoever imports a directory may write a slash at the end or not. The specifier, its URL and the
path of that are then different texts, and each of them has a part in what follows: the host
looks at the path, the hook looks for candidates below it, and the second question is made of
the specifier. In all three the slash is lost: the candidates are those of the last step
(`directoryRetry_of_toFilePath?`), they stand at the same paths, and slashes at the end of the
specifier are dropped before a candidate is put behind it (`extendDirectory_append_slash`). So
both spellings select the same file, or both fail alike, wherever there is a directory
(`resolve_slash_iff`).

The names of directories are no relative specifiers by themselves, as they stand: the host
takes a specifier for relative only if a slash follows. With a slash at the end they lead to a
directory, and without it nowhere (`not_forall_slash`).
-/

namespace ModuleHooks.Import

open ModuleHooks.Path

/-- **Two imports select the same entry**: they have the same result, or each of them fails as
the import of a directory. -/
inductive SameEntry :
    Except LoaderError ResolvedModule → Except LoaderError ResolvedModule → Prop where
  /-- The same module. -/
  | module (m : ResolvedModule) : SameEntry (.ok m) (.ok m)
  /-- No module in a directory. -/
  | directory (s t : Text) (u v : Url) :
    SameEntry (.error (.resolve (.directoryImport s u))) (.error (.resolve (.directoryImport t v)))

/-- A module that is not found is no entry. -/
theorem not_sameEntry_moduleNotFound {r : Except LoaderError ResolvedModule} {s : Text}
    {url : Option Url} : ¬SameEntry r (.error (.resolve (.moduleNotFound s url))) := by
  intro h
  cases h

/-! ## The places -/

section Places

variable {fs : FileSystem} {reached : List Text}

/-- The place with a slash at its end, which the root has already. -/
theorem rooted_concat_nil (reached : List Text) :
    rooted (reached ++ [[]])
      = if reached = [] then rooted reached else rooted reached ++ ['/'] := by
  split_ifs with h
  · rw [h]
    rfl
  · exact rooted_concat h []

/-- **Where a slash is added**, the directory stays one, unless its path gets too long. -/
theorem isDirectory_rooted_concat_nil_iff :
    fs.isDirectory (rooted (reached ++ [[]])) = true ↔
      fs.isDirectory (rooted reached) = true ∧ Text.utf8Length (rooted reached) < 4095 := by
  rw [rooted_concat_nil]
  split_ifs with h
  · rw [h]
    exact (and_iff_left (by decide)).symm
  · exact FileSystem.isDirectory_append_slash_iff (isAbsolute_rooted reached)

/-- **The first candidate of a place** that is a file. -/
def entryFile? (fs : FileSystem) (reached : List Text) : Option Text :=
  (directoryCandidates (rooted reached)).find? fun file => fs.isFile (rooted (reached ++ [file]))

variable (hreached : ∀ s ∈ reached, IsPlainSegment s ∧ IsStep s)

include hreached

theorem steps_rooted_concat_nil : steps (rooted (reached ++ [[]])) = reached := by
  have hsteps := steps_rooted fun s hs => (hreached s hs).2
  rw [rooted_concat_nil]
  split_ifs
  · exact hsteps
  · rw [steps_append_slash, hsteps]

/-- The candidates are the same with a slash. -/
theorem directoryCandidates_concat_nil :
    directoryCandidates (rooted (reached ++ [[]])) = directoryCandidates (rooted reached) := by
  unfold directoryCandidates
  rw [fileName?_eq, fileName?_eq, steps_rooted_concat_nil hreached,
    steps_rooted fun s hs => (hreached s hs).2]

theorem isPlainName_of_mem_candidates_rooted :
    ∀ file ∈ directoryCandidates (rooted reached), IsPlainName file := by
  refine isPlainName_of_mem_candidates fun s hs => ?_
  rw [steps_rooted fun s hs => (hreached s hs).2] at hs
  exact (hreached s hs).1

/-- A candidate stands at the same path with a slash. -/
theorem join_of_candidate {dir : Path}
    (hdir : dir = rooted reached ∨ dir = rooted (reached ++ [[]])) {file : Text}
    (hfile : IsPlainName file) : join dir file = rooted (reached ++ [file]) := by
  have hrelative := isAbsolute_of_notMem hfile.isStep.2
  have hbare : join (rooted reached) file = rooted (reached ++ [file]) :=
    join_rooted (fun s hs => ⟨(hreached s hs).1.ne_nil, (hreached s hs).2.2⟩) hrelative
  rcases hdir with rfl | rfl
  · exact hbare
  · rw [rooted_concat_nil]
    split_ifs with hne
    · exact hbare
    · rw [join, if_neg (by rw [hrelative]; exact Bool.false_ne_true), if_pos (by simp),
        List.append_assoc, List.singleton_append, ← rooted_concat hne]

/-- **What is asked for after a directory import** does not depend on the slash in its path. -/
theorem directoryRetry_of_toFilePath? {url : Url} {dir : Path} (hurl : url.toFilePath? = some dir)
    (hdir : dir = rooted reached ∨ dir = rooted (reached ++ [[]])) (specifier : Text) :
    directoryRetry fs specifier url = (entryFile? fs reached).map (extendDirectory specifier) := by
  have hcandidates : directoryCandidates dir = directoryCandidates (rooted reached) := by
    rcases hdir with rfl | rfl
    · rfl
    · exact directoryCandidates_concat_nil hreached
  rw [directoryRetry, hurl, Option.bind_some, hcandidates, entryFile?]
  refine congrArg (Option.map _) (List.find?_congr fun file hfile => ?_)
  rw [join_of_candidate hreached hdir (isPlainName_of_mem_candidates_rooted hreached file hfile)]

end Places

/-! ## The specifiers -/

/-- Slashes at the end of a specifier are dropped. -/
theorem extendDirectory_append_slash (specifier file : Text) :
    extendDirectory (specifier ++ ['/']) file = extendDirectory specifier file := by
  rw [extendDirectory, Text.trimEnd_append (List.forall_mem_singleton.mpr rfl), ← extendDirectory]

/-- A specifier with a slash at its end is left to the host. -/
theorem syntheticFormat?_append_slash (specifier : Text) :
    syntheticFormat? (Specifier.classify (specifier ++ ['/'])) = none := by
  rw [Specifier.classify_append_cons rfl]
  decide

section Questions

variable {fs : FileSystem} {names segments : List Text} {lead : Text} {context : ResolveContext}
  (hnames : ∀ s ∈ names, IsPlainSegment s ∧ IsStep s) (hlead : lead = ['.'] ∨ lead = ['.', '.'])
  (hne : segments ≠ []) (hsegments : ∀ s ∈ segments, IsPlainSegment s)
  (hbase : context.parentUrl = some (Url.fileUrl (.domain []) (Url.fileSegments names)))

include hnames hlead hsegments

theorem reached_of_plain :
    ∀ s ∈ reach names.dropLast (lead :: segments), IsPlainSegment s ∧ IsStep s := by
  have hall : ∀ s ∈ lead :: segments, IsPlainSegment s :=
    List.forall_mem_cons.mpr ⟨Or.inl hlead, hsegments⟩
  intro s hs
  rcases mem_or_of_mem_reach hs with hmem | ⟨hmem, hidle, -⟩
  · exact hnames s (List.mem_of_mem_dropLast hmem)
  · exact ⟨hall s hmem, hidle, notMem_of_isPlain (hall s hmem).plain (by decide)⟩

include hne hbase

/-- **With a slash at its end** the specifier leads to the place with a slash. -/
theorem resolve_slash_eq_resolveUrl (fs : FileSystem) :
    ∃ url, url.toFilePath? = some (rooted (reach names.dropLast (lead :: segments) ++ [[]]))
      ∧ StrictHost.resolve fs (spell lead segments ++ ['/']) context
        = StrictHost.resolveUrl fs (spell lead segments ++ ['/']) url := by
  have hreached := reached_of_plain hnames hlead hsegments
  have hjoin := Url.join_directory (fun s hs => (hnames s hs).1) (List.cons_ne_nil lead segments)
    (List.forall_mem_cons.mpr ⟨Or.inl hlead, hsegments⟩)
  refine ⟨_, Url.toFilePath?_concat_nil fun s hs => (hreached s hs).1, ?_⟩
  have hspell : spell lead segments ++ ['/']
      = lead ++ '/' :: (Text.join "/" segments ++ ['/']) := by
    rw [spell_eq hne, List.append_assoc, List.cons_append]
  rw [← spell, hspell] at hjoin
  rw [hspell]
  exact StrictHost.resolve_of_join hlead hbase hjoin

/-- **Without one** it leads to the place as it is, or again to the place with a slash. -/
theorem resolve_bare_eq_resolveUrl (fs : FileSystem) :
    ∃ url dir, url.toFilePath? = some dir
      ∧ (dir = rooted (reach names.dropLast (lead :: segments))
        ∨ dir = rooted (reach names.dropLast (lead :: segments) ++ [[]]))
      ∧ StrictHost.resolve fs (spell lead segments) context
        = StrictHost.resolveUrl fs (spell lead segments) url := by
  have hreached := reached_of_plain hnames hlead hsegments
  obtain ⟨front, last, rfl⟩ := (List.eq_nil_or_concat' segments).resolve_left hne
  obtain ⟨hfront, hlast⟩ := List.forall_mem_append.mp hsegments
  rcases List.forall_mem_singleton.mp hlast with hdots | hname
  · have hfront' : ∀ s ∈ lead :: front, IsPlainSegment s :=
      List.forall_mem_cons.mpr ⟨Or.inl hlead, hfront⟩
    have hjoin := Url.join_dots (fun s hs => (hnames s hs).1) hfront' hdots
    rw [List.cons_append] at hjoin
    refine ⟨_, _, Url.toFilePath?_concat_nil fun s hs => (hreached s hs).1, Or.inr rfl, ?_⟩
    rw [← spell, spell_eq hne] at hjoin
    rw [spell_eq hne]
    exact StrictHost.resolve_of_join hlead hbase hjoin
  · obtain ⟨url, -, hpath, hanswer⟩ := resolve_spell_eq_resolveUrl fs
      (fun s hs => (hnames s hs).1) hlead hfront hbase hname
    rw [← reach_concat hname, List.cons_append] at hpath
    exact ⟨url, _, hpath, Or.inl rfl, hanswer⟩

/-- **The entry of a directory** is what the second question is answered with. -/
theorem resolve_entry {file : Text}
    (hentry : entryFile? fs (reach names.dropLast (lead :: segments)) = some file) :
    ∃ m, StrictHost.resolve fs (extendDirectory (spell lead segments) file) context = .ok m := by
  have hreached := reached_of_plain hnames hlead hsegments
  have hfile : IsPlainName file :=
    isPlainName_of_mem_candidates_rooted hreached file (List.mem_of_find?_eq_some hentry)
  have hpresent : fs.isFile (rooted (reach names.dropLast (lead :: segments) ++ [file])) = true :=
    (List.find?_eq_some_iff_append.mp hentry).1
  obtain ⟨url, -, hpath, hanswer⟩ := resolve_spell_eq_resolveUrl fs
    (fun s hs => (hnames s hs).1) hlead hsegments hbase hfile
  obtain ⟨front, last, rfl⟩ := (List.eq_nil_or_concat' segments).resolve_left hne
  obtain ⟨hfront, hlast⟩ := List.forall_mem_append.mp hsegments
  rw [extendDirectory_spell (List.forall_mem_singleton.mp hlast), hanswer,
    StrictHost.resolveUrl_of_isFile hpath hpresent]
  exact ⟨_, rfl⟩

end Questions

/-! ## The answers -/

/-- **A directory import is followed by the answer** to what is asked for next. -/
theorem resolve_of_directoryImport {fs : FileSystem} {specifier asked : Text}
    {context : ResolveContext} {url : Url}
    (h : syntheticFormat? (Specifier.classify specifier) = none)
    (hfirst : StrictHost.resolve fs specifier context = .error (.directoryImport asked url)) :
    (resolve fs (StrictHost.resolver fs) () specifier context).value.2
      = (StrictHost.resolve fs ((directoryRetry fs specifier url).getD specifier)
          context).mapError .resolve := by
  rw [value_resolve_lastQuestion h, lastQuestion, hfirst, again?_directoryImport, Option.getD_some]

/-- Where nothing is behind a slash, the import fails. -/
theorem resolve_of_not_isDirectory {fs : FileSystem} {specifier : Text} {context : ResolveContext}
    {url : Url} {p : Path} (h : syntheticFormat? (Specifier.classify specifier) = none)
    (hp : isAbsolute p = true) (hurl : url.toFilePath? = some (p ++ ['/']))
    (hnot : fs.isDirectory (p ++ ['/']) = false)
    (hanswer : StrictHost.resolve fs specifier context
      = StrictHost.resolveUrl fs specifier url) :
    (resolve fs (StrictHost.resolver fs) () specifier context).value.2
      = .error (.resolve (.moduleNotFound specifier (some url))) := by
  rw [StrictHost.resolveUrl_of_none hurl
    (FileSystem.node?_append_slash_of_not_isDirectory hp hnot)] at hanswer
  have hagain : SecondQuestion fs specifier (.moduleNotFound specifier (some url)) specifier := by
    refine .missing fun path hpath => Bool.eq_false_of_not_eq_true fun hfile => ?_
    obtain rfl := Option.some_inj.mp (hurl.symm.trans hpath)
    rw [List.append_assoc, List.singleton_append] at hfile
    rw [FileSystem.isDirectory_of_isFile (isAbsolute_append hp _) (by decide) hfile] at hnot
    cases hnot
  rw [resolve_of_again h hanswer hagain, hanswer]
  rfl

/-- **A slash at the end does not matter** to the import of a directory, and to no other.

Let the steps of an absolute path be plain names and `..`, and let a specifier begin with `./` or
`../` and go on with plain names and names of directories. If it is not intercepted, then with
and without a slash at its end it has the same result from the path for the importer, or fails
as the import of a directory, exactly if there is a directory where the walk from that of the
importer along the specifier arrives, and the path of this directory is not so long that
a slash does not fit. -/
theorem resolve_slash_iff (fs : FileSystem) {p : Path} {lead : Text} {segments : List Text}
    {context : ResolveContext} (hp : isAbsolute p = true)
    (hsteps : ∀ s ∈ steps p, IsPlainSegment s) (hlead : lead = ['.'] ∨ lead = ['.', '.'])
    (hne : segments ≠ []) (hsegments : ∀ s ∈ segments, IsPlainSegment s)
    (hparent : context.parentUrl = Url.ofFilePath? p)
    (hpass : (Specifier.classify (spell lead segments)).isIntercepted = false) :
    let target := rooted (reach (steps p).dropLast (lead :: segments))
    SameEntry
        (resolve fs (StrictHost.resolver fs) () (spell lead segments) context).value.2
        (resolve fs (StrictHost.resolver fs) () (spell lead segments ++ ['/']) context).value.2
      ↔ fs.isDirectory target = true ∧ Text.utf8Length target < 4095 := by
  intro target
  have hnames : ∀ s ∈ steps p, IsPlainSegment s ∧ IsStep s := fun s hs =>
    ⟨hsteps s hs, isStep_of_mem_steps hs⟩
  have hbase := hparent.trans (Url.ofFilePath?_of_isAbsolute hp)
  have hreached := reached_of_plain hnames hlead hsegments
  have hformat := syntheticFormat?_eq_none_iff.mpr hpass
  have hformat' := syntheticFormat?_append_slash (spell lead segments)
  obtain ⟨url, dir, hurl, hdir, hbare⟩ :=
    resolve_bare_eq_resolveUrl hnames hlead hne hsegments hbase fs
  obtain ⟨url', hurl', hslash⟩ :=
    resolve_slash_eq_resolveUrl hnames hlead hne hsegments hbase fs
  rw [← isDirectory_rooted_concat_nil_iff]
  constructor
  · intro hsame
    by_contra hnot
    have hroot : reach (steps p).dropLast (lead :: segments) ≠ [] := by
      intro hnil
      rw [hnil] at hnot
      exact hnot rfl
    rw [rooted_concat_nil, if_neg hroot] at hurl' hnot
    rw [resolve_of_not_isDirectory hformat' (isAbsolute_rooted _) hurl'
      (Bool.eq_false_of_not_eq_true hnot) hslash] at hsame
    exact not_sameEntry_moduleNotFound hsame
  · intro hdirectory
    have hdirectory' : fs.isDirectory dir = true := by
      rcases hdir with rfl | rfl
      · exact (isDirectory_rooted_concat_nil_iff.mp hdirectory).1
      · exact hdirectory
    rw [StrictHost.resolveUrl_of_isDirectory hurl hdirectory'] at hbare
    rw [StrictHost.resolveUrl_of_isDirectory hurl' hdirectory] at hslash
    rw [resolve_of_directoryImport hformat hbare, resolve_of_directoryImport hformat' hslash,
      directoryRetry_of_toFilePath? hreached hurl hdir,
      directoryRetry_of_toFilePath? hreached hurl' (Or.inr rfl)]
    cases hentry : entryFile? fs (reach (steps p).dropLast (lead :: segments)) with
    | some file =>
      obtain ⟨m, hm⟩ := resolve_entry hnames hlead hne hsegments hbase hentry
      rw [Option.map_some, Option.map_some, Option.getD_some, Option.getD_some,
        extendDirectory_append_slash, hm]
      exact .module m
    | none =>
      rw [Option.map_none, Option.map_none, Option.getD_none, Option.getD_none, hbare, hslash]
      exact .directory _ _ _ _

/-- A project with an entry file in either of its directories. -/
def entered : FileSystem where
  nodes := [(["app".toList], .directory), (["app".toList, "index.js".toList], .file []),
    (["app".toList, "lib".toList], .directory),
    (["app".toList, "lib".toList, "lib.cjs.js".toList], .file [])]

/-- **The law at a directory**, spelled with dots and from an importer with dots in its path. -/
theorem resolve_slash_iff_entered :
    let context : ResolveContext := { parentUrl := Url.ofFilePath? "/app/../app/main.js" }
    SameEntry
      (resolve entered (StrictHost.resolver entered) () "./lib/../lib" context).value.2
      (resolve entered (StrictHost.resolver entered) () "./lib/../lib/" context).value.2 := by
  intro context
  exact (@resolve_slash_iff entered "/app/../app/main.js" ".".toList
    ["lib".toList, "..".toList, "lib".toList] context rfl (by decide) (by decide) (by decide)
    (by decide) rfl (by decide)).mpr (by decide)

/-- **A name of a directory is no relative specifier**: alone it is taken for the name of a
package, and with a slash for the directory of the importer. -/
theorem not_forall_slash :
    ¬∀ (fs : FileSystem) (p : Path) (lead : Text) (segments : List Text)
      (context : ResolveContext), isAbsolute p = true → (∀ s ∈ steps p, IsPlainName s) →
      lead = ['.'] ∨ lead = ['.', '.'] → (∀ s ∈ segments, IsPlainSegment s) →
      context.parentUrl = Url.ofFilePath? p →
      (Specifier.classify (spell lead segments)).isIntercepted = false →
      fs.isDirectory (normalise (join ((parent? p).getD "/") (spell lead segments))) = true →
      SameEntry (resolve fs (StrictHost.resolver fs) () (spell lead segments) context).value.2
        (resolve fs (StrictHost.resolver fs) ()
          (spell lead segments ++ ['/']) context).value.2 := by
  intro h
  let context : ResolveContext := { parentUrl := Url.ofFilePath? "/app/main.js" }
  have hsame := h entered "/app/main.js" ".".toList [] context rfl (by decide) (by decide)
    (by decide) rfl (by decide) (by decide)
  have hbare :
      (resolve entered (StrictHost.resolver entered) () (spell ".".toList []) context).value.2
        = .error (.resolve (.moduleNotFound ".".toList none)) := by
    decide
  rw [hbare] at hsame
  cases hsame

end ModuleHooks.Import
