import ModuleHooks.Proofs.Import.Conversation
import ModuleHooks.Proofs.Import.StrictHost
import ModuleHooks.Proofs.Path.Ascent
import ModuleHooks.Proofs.Url.Relative
/-!
# Relative imports

The hooks and the strict host only see each other's answers: the host turns a
specifier into a URL, the hook turns the URL of a failure into a path, looks
for files there, and writes a new specifier that the host reads from scratch.
`RelativeOutcome` says what comes of all this for a relative specifier between
plain names, in terms of the disk alone.

What makes it work is one observation used three times. The specifier ends in
a plain name, and so does every specifier that the hook makes of it; therefore
each question leads to a file directly under the place where the walk along the
front of the specifier arrives (`resolve_eq_resolveUrl`), and the file that was
found by its path is the file that is asked for.

The path of an importing module may be given by hand, with `..` in the middle of it. Its URL
keeps each `..` as a segment of its own, and a specifier that is joined with the URL takes away
one segment for each of its own `..`, be it a name or not. The file that comes of it is where
the last steps of the importer's directory are left away, and not always where the specifier
leads from there (`resolve_parent_iff`).
-/

namespace ModuleHooks.Import

open ModuleHooks.Path

/-- **What comes of a relative import** whose lexical target is `t`. The
conditions exclude each other, so the disk tells the answer. -/
inductive RelativeOutcome (fs : FileSystem) (specifier : Text) (t : Path) :
    Except LoaderError ResolvedModule → Prop where
  /-- A stylesheet or an asset is not looked for at all. -/
  | intercepted {format : ModuleFormat} {url : Url}
      (class_eq : syntheticFormat? (Specifier.classify specifier) = some format)
      (leads : url.toFilePath? = some t) :
      RelativeOutcome fs specifier t (.ok { url, format := some format, shortCircuit := true })
  /-- The target is a regular file. -/
  | file {url : Url} (passed : (Specifier.classify specifier).isIntercepted = false)
      (present : fs.isFile t = true) (leads : url.toFilePath? = some t) :
      RelativeOutcome fs specifier t
        (.ok { url, format := some (StrictHost.detectFormat fs t) })
  /-- The target is a directory in which a candidate is a regular file. -/
  | entry {url : Url} {before after : List Text} {file : Text}
      (passed : (Specifier.classify specifier).isIntercepted = false)
      (directory : fs.isDirectory t = true)
      (candidates : ["index.js".toList, (Path.fileName? t).getD [] ++ ".cjs.js".toList,
        (Path.fileName? t).getD [] ++ ".js".toList] = before ++ file :: after)
      (absent : ∀ other ∈ before, fs.isFile (t ++ '/' :: other) = false)
      (present : fs.isFile (t ++ '/' :: file) = true)
      (leads : url.toFilePath? = some (t ++ '/' :: file)) :
      RelativeOutcome fs specifier t
        (.ok { url, format := some (StrictHost.detectFormat fs (t ++ '/' :: file)) })
  /-- The target is a directory in which no candidate is a regular file. -/
  | directory {url : Url} (passed : (Specifier.classify specifier).isIntercepted = false)
      (directory : fs.isDirectory t = true)
      (absent : ∀ file ∈ ["index.js".toList, (Path.fileName? t).getD [] ++ ".cjs.js".toList,
        (Path.fileName? t).getD [] ++ ".js".toList], fs.isFile (t ++ '/' :: file) = false)
      (leads : url.toFilePath? = some t) :
      RelativeOutcome fs specifier t (.error (.resolve (.directoryImport specifier url)))
  /-- There is nothing at the target, but a script is beside it. -/
  | script {url : Url} (passed : (Specifier.classify specifier).isIntercepted = false)
      (nothing : fs.node? t = none) (present : fs.isFile (t ++ ".js".toList) = true)
      (leads : url.toFilePath? = some (t ++ ".js".toList)) :
      RelativeOutcome fs specifier t
        (.ok { url, format := some (StrictHost.detectFormat fs (t ++ ".js".toList)) })
  /-- There is nothing at the target and no script beside it. -/
  | missing {url : Url} (passed : (Specifier.classify specifier).isIntercepted = false)
      (nothing : fs.node? t = none) (absent : fs.isFile (t ++ ".js".toList) = false)
      (leads : url.toFilePath? = some t) :
      RelativeOutcome fs specifier t (.error (.resolve (.moduleNotFound specifier (some url))))

/-! ## The questions -/

section Questions

variable {names front : List Text} {lead : Text} {context : ResolveContext}

/-- The specifier of a list of segments after a leading one. -/
def spell (lead : Text) (segments : List Text) : Text := Text.join "/" (lead :: segments)

theorem spell_eq {segments : List Text} (h : segments ≠ []) :
    spell lead segments = lead ++ '/' :: Text.join "/" segments := by
  rw [spell, Text.join_cons lead h, List.append_assoc]
  rfl

/-- **Each question leads directly under the place where the walk arrives**, and
the host looks there. The path of the importer may have been written with `..`. -/
theorem resolve_spell_eq_resolveUrl (fs : FileSystem) (hnames : ∀ s ∈ names, IsPlainSegment s)
    (hlead : lead = ['.'] ∨ lead = ['.', '.']) (hfront : ∀ s ∈ front, IsPlainSegment s)
    (hbase : context.parentUrl = some (Url.fileUrl (.domain []) (Url.fileSegments names)))
    {last : Text} (hlast : IsPlainName last) :
    ∃ url, (Url.fileUrl (.domain []) (Url.fileSegments names)).join (spell lead (front ++ [last]))
        = .ok url
      ∧ url.toFilePath? = some (rooted (reach names.dropLast (lead :: front) ++ [last]))
      ∧ StrictHost.resolve fs (spell lead (front ++ [last])) context
        = StrictHost.resolveUrl fs (spell lead (front ++ [last])) url := by
  have hne : front ++ [last] ≠ [] := List.append_ne_nil_of_right_ne_nil _ (List.cons_ne_nil _ _)
  have hsegments : ∀ s ∈ lead :: front, IsPlainSegment s :=
    List.forall_mem_cons.mpr ⟨Or.inl hlead, hfront⟩
  obtain ⟨url, hurl, hpath⟩ := Url.join_of_isPlainSegment hnames hsegments hlast
  rw [reach_concat hlast] at hpath
  refine ⟨url, hurl, hpath, ?_⟩
  have hurl' : (Url.fileUrl (.domain []) (Url.fileSegments names)).join
      (spell lead (front ++ [last])) = .ok url := hurl
  rw [spell_eq hne] at hurl' ⊢
  exact StrictHost.resolve_of_join hlead hbase hurl'

/-- The same for an importer with a path of plain names. -/
theorem resolve_eq_resolveUrl (fs : FileSystem) (hnames : ∀ s ∈ names, IsPlainName s)
    (hlead : lead = ['.'] ∨ lead = ['.', '.']) (hfront : ∀ s ∈ front, IsPlainSegment s)
    (hparent : context.parentUrl = Url.ofFilePath? (rooted names)) {last : Text}
    (hlast : IsPlainName last) :
    ∃ base url, context.parentUrl = some base ∧ base.join (spell lead (front ++ [last])) = .ok url
      ∧ url.toFilePath? = some (rooted (reach names.dropLast (lead :: front) ++ [last]))
      ∧ StrictHost.resolve fs (spell lead (front ++ [last])) context
        = StrictHost.resolveUrl fs (spell lead (front ++ [last])) url := by
  have hbase : context.parentUrl
      = some (Url.fileUrl (.domain []) (Url.fileSegments names)) := by
    rw [hparent, Url.ofFilePath?_of_isAbsolute (isAbsolute_rooted names),
      steps_rooted fun s hs => (hnames s hs).isStep]
  obtain ⟨url, hurl, hpath, hanswer⟩ := resolve_spell_eq_resolveUrl fs
    (fun s hs => Or.inr (hnames s hs)) hlead hfront hbase hlast
  exact ⟨_, url, hbase, hurl, hpath, hanswer⟩

end Questions

/-! ## The candidates -/

/-- The candidates of a directory with a plain path are plain names. -/
theorem isPlainName_of_mem_candidates {t : Path} (h : ∀ s ∈ steps t, IsPlainSegment s) :
    ∀ file ∈ directoryCandidates t, IsPlainName file := by
  have hbase : ∀ c ∈ (fileName? t).getD [], isPlain c = true := by
    rw [fileName?_eq]
    cases hlast : (steps t).getLast?.filter (· ≠ ['.', '.']) with
    | none => exact fun c hc => absurd hc List.not_mem_nil
    | some s =>
      exact (h s (List.mem_of_getLast? (Option.eq_some_of_filter_eq_some hlast))).plain
  intro file hfile
  simp only [directoryCandidates, List.mem_cons, List.not_mem_nil, or_false] at hfile
  rcases hfile with rfl | rfl | rfl
  · decide
  · exact isPlainName_append (d := 'c') hbase (List.all_eq_true.mp rfl) (by decide) (by decide)
  · exact isPlainName_append (d := 'j') hbase (List.all_eq_true.mp rfl) (by decide) (by decide)

/-! ## Specifiers put together -/

section Specifiers

variable {names front : List Text} {lead last : Text}

/-- The lexical target of a relative specifier. -/
theorem normalise_join_spell (hnames : ∀ s ∈ names, IsPlainName s)
    (hlead : lead = ['.'] ∨ lead = ['.', '.']) (hfront : ∀ s ∈ front, IsPlainSegment s)
    (hlast : IsPlainName last) :
    normalise (join ((parent? (rooted names)).getD "/") (spell lead (front ++ [last])))
      = rooted (reach names.dropLast (lead :: front) ++ [last]) := by
  have hsegments : ∀ s ∈ lead :: (front ++ [last]), IsPlainSegment s := by
    refine List.forall_mem_cons.mpr ⟨Or.inl hlead, List.forall_mem_append.mpr ⟨hfront, ?_⟩⟩
    exact List.forall_mem_singleton.mpr (Or.inr hlast)
  have hrelative : isAbsolute (Text.join "/" (lead :: (front ++ [last]))) = false :=
    Url.isAbsolute_join_of_isPlainSegment (List.cons_ne_nil _ _) hsegments
  rw [parent?_rooted hnames, ← reach_concat hlast, List.cons_append]
  exact normalise_join_rooted (fun s hs => hnames s (List.mem_of_mem_dropLast hs)) hsegments
    hrelative

/-- A plain segment at the end is where trailing slashes would be. -/
theorem extendDirectory_spell (hlast : IsPlainSegment last) (file : Text) :
    extendDirectory (spell lead (front ++ [last])) file
      = spell lead (front ++ [last] ++ [file]) := by
  have hne : front ++ [last] ≠ [] := List.append_ne_nil_of_right_ne_nil _ (List.cons_ne_nil _ _)
  obtain ⟨stem, c, rfl⟩ := (List.eq_nil_or_concat' last).resolve_left hlast.ne_nil
  have hc : c ≠ '/' := fun heq => by
    have hplain := hlast.plain c (List.mem_append_right _ List.mem_cons_self)
    rw [heq] at hplain
    exact absurd hplain (by decide)
  obtain ⟨prior, hprior⟩ : ∃ prior, spell lead (front ++ [stem ++ [c]]) = prior ++ [c] := by
    rw [spell, ← List.cons_append]
    show ∃ prior, Text.join ['/'] (lead :: front ++ [stem ++ [c]]) = prior ++ [c]
    rw [Text.join_append (List.cons_ne_nil _ _) (List.cons_ne_nil _ _), Text.join_singleton,
      ← List.cons_append, ← List.append_assoc]
    exact ⟨_, rfl⟩
  have htrim : Text.trimEnd (· == '/') (prior ++ [c]) = prior ++ [c] :=
    Text.trimEnd_concat (by simpa using hc) prior
  rw [extendDirectory, hprior, htrim, ← hprior, spell, spell, ← List.cons_append,
    ← List.cons_append]
  show _ = Text.join ['/'] (lead :: (front ++ [stem ++ [c]]) ++ [file])
  rw [Text.join_append (List.cons_ne_nil _ _) (List.cons_ne_nil _ _), Text.join_singleton]
  rfl

/-- The specifier of a script beside the target. -/
theorem spell_append (lead : Text) (front : List Text) (last more : Text) :
    spell lead (front ++ [last]) ++ more = spell lead (front ++ [last ++ more]) :=
  Text.join_concat_append '/' (lead :: front) last more

end Specifiers

/-! ## The answers -/

section Answers

variable {fs : FileSystem} {names front : List Text} {lead last : Text} {context : ResolveContext}
  (hnames : ∀ s ∈ names, IsPlainName s) (hlead : lead = ['.'] ∨ lead = ['.', '.'])
  (hfront : ∀ s ∈ front, IsPlainSegment s) (hlast : IsPlainName last)
  (hparent : context.parentUrl = Url.ofFilePath? (rooted names))

include hnames hlead hfront hlast

/-- The target of a relative import is a path of plain names. -/
theorem isPlainName_of_mem_target :
    ∀ s ∈ reach names.dropLast (lead :: front) ++ [last], IsPlainName s := by
  refine List.forall_mem_append.mpr ⟨?_, List.forall_mem_singleton.mpr hlast⟩
  exact isPlainName_of_mem_reach (fun s hs => hnames s (List.mem_of_mem_dropLast hs))
    (List.forall_mem_cons.mpr ⟨Or.inl hlead, hfront⟩)

/-- The candidates in a directory are one name below it. -/
theorem join_target {file : Text} (hfile : IsPlainName file) :
    join (rooted (reach names.dropLast (lead :: front) ++ [last])) file
      = rooted (reach names.dropLast (lead :: front) ++ [last]) ++ '/' :: file := by
  have htarget := isPlainName_of_mem_target hnames hlead hfront hlast
  rw [join_rooted (fun s hs => ⟨(htarget s hs).ne_nil, (htarget s hs).isStep.2⟩)
      (isAbsolute_of_notMem hfile.isStep.2),
    rooted_concat (List.append_ne_nil_of_right_ne_nil _ (List.cons_ne_nil _ _))]

include hparent

/-- A question that leads to a file is answered with it. -/
theorem resolve_eq_ok {p : Path} (hp : rooted (reach names.dropLast (lead :: front) ++ [last]) = p)
    (hfile : fs.isFile p = true) :
    ∃ url, url.toFilePath? = some p ∧ StrictHost.resolve fs (spell lead (front ++ [last])) context
      = .ok { url, format := some (StrictHost.detectFormat fs p) } := by
  obtain ⟨base, url, -, -, hpath, hanswer⟩ :=
    resolve_eq_resolveUrl fs hnames hlead hfront hparent hlast
  rw [hp] at hpath
  exact ⟨url, hpath, by rw [hanswer, StrictHost.resolveUrl_of_isFile hpath hfile]⟩

/-- **Where nothing is**, the script beside the target is the only other file
that is asked for. -/
theorem relativeOutcome_of_none
    (hformat : syntheticFormat? (Specifier.classify (spell lead (front ++ [last]))) = none)
    (hnone : fs.node? (rooted (reach names.dropLast (lead :: front) ++ [last])) = none) :
    RelativeOutcome fs (spell lead (front ++ [last]))
      (rooted (reach names.dropLast (lead :: front) ++ [last]))
      (resolve fs (StrictHost.resolver fs) () (spell lead (front ++ [last])) context).value.2 := by
  have hpass := syntheticFormat?_eq_none_iff.mp hformat
  obtain ⟨base, url, -, -, hpath, hfirst⟩ :=
    resolve_eq_resolveUrl fs hnames hlead hfront hparent hlast
  rw [StrictHost.resolveUrl_of_none hpath hnone] at hfirst
  cases hscript : fs.isFile (rooted (reach names.dropLast (lead :: front) ++ [last])
      ++ ".js".toList) with
  | true =>
    have hlast' : IsPlainName (last ++ ".js".toList) :=
      isPlainName_append (d := 'j') hlast.plain (List.all_eq_true.mp rfl) (by decide) (by decide)
    obtain ⟨url', hpath', hsecond⟩ := resolve_eq_ok hnames hlead hfront hlast' hparent
      (rooted_concat_append _ _ _).symm hscript
    rw [← spell_append] at hsecond
    rw [resolve_of_again hformat hfirst (.script hpath hscript), hsecond]
    exact .script hpass hnone hscript hpath'
  | false =>
    have hagain : SecondQuestion fs (spell lead (front ++ [last]))
        (.moduleNotFound (spell lead (front ++ [last])) (some url))
        (spell lead (front ++ [last])) := by
      refine .missing (fun path hleads => ?_)
      rw [← Option.some_inj.mp (hpath.symm.trans hleads), hscript]
    rw [resolve_of_again hformat hfirst hagain, hfirst]
    exact .missing hpass hnone hscript hpath

/-- **Where a directory is**, what is asked for next is a candidate in it. -/
theorem relativeOutcome_of_isDirectory
    (hformat : syntheticFormat? (Specifier.classify (spell lead (front ++ [last]))) = none)
    (hdirectory : fs.isDirectory (rooted (reach names.dropLast (lead :: front) ++ [last])) = true) :
    RelativeOutcome fs (spell lead (front ++ [last]))
      (rooted (reach names.dropLast (lead :: front) ++ [last]))
      (resolve fs (StrictHost.resolver fs) () (spell lead (front ++ [last])) context).value.2 := by
  have hpass := syntheticFormat?_eq_none_iff.mp hformat
  have htarget := isPlainName_of_mem_target hnames hlead hfront hlast
  have hjoin {file : Text} (hfile : IsPlainName file) :=
    join_target hnames hlead hfront hlast hfile
  obtain ⟨base, url, -, -, hpath, hfirst⟩ :=
    resolve_eq_resolveUrl fs hnames hlead hfront hparent hlast
  rw [StrictHost.resolveUrl_of_isDirectory hpath hdirectory] at hfirst
  have hcandidates : ∀ file ∈ directoryCandidates
      (rooted (reach names.dropLast (lead :: front) ++ [last])), IsPlainName file := by
    refine isPlainName_of_mem_candidates ?_
    rw [steps_rooted fun s hs => (htarget s hs).isStep]
    exact fun s hs => Or.inr (htarget s hs)
  cases hretry : directoryRetry fs (spell lead (front ++ [last])) url with
  | some again =>
    obtain ⟨dir, before, file, after, hdir, hsplit, habsent, hpresent, rfl⟩ :=
      directoryRetry_eq_some_iff.mp hretry
    cases hpath.symm.trans hdir
    have hfile : IsPlainName file := hcandidates file (hsplit ▸ by simp)
    have hagain : SecondQuestion fs (spell lead (front ++ [last]))
        (.directoryImport (spell lead (front ++ [last])) url)
        (extendDirectory (spell lead (front ++ [last])) file) :=
      .entry hdir hsplit habsent hpresent
    have hbefore : ∀ other ∈ before, fs.isFile
        (rooted (reach names.dropLast (lead :: front) ++ [last]) ++ '/' :: other) = false := by
      intro other hother
      rw [← hjoin (hcandidates other (hsplit ▸ List.mem_append_left _ hother))]
      exact habsent other hother
    rw [hjoin hfile] at hpresent
    -- The second question is a relative specifier with one more plain name at its end.
    have hfront' : ∀ s ∈ front ++ [last], IsPlainSegment s :=
      List.forall_mem_append.mpr ⟨hfront, List.forall_mem_singleton.mpr (Or.inr hlast)⟩
    have hreach : rooted (reach names.dropLast (lead :: (front ++ [last])) ++ [file])
        = rooted (reach names.dropLast (lead :: front) ++ [last]) ++ '/' :: file := by
      rw [← List.cons_append, reach_concat hlast,
        rooted_concat (List.append_ne_nil_of_right_ne_nil _ (List.cons_ne_nil _ _))]
    obtain ⟨url', hpath', hsecond⟩ :=
      resolve_eq_ok hnames hlead hfront' hfile hparent hreach hpresent
    rw [← extendDirectory_spell (Or.inr hlast)] at hsecond
    rw [resolve_of_again hformat hfirst hagain, hsecond]
    exact .entry hpass hdirectory hsplit hbefore hpresent hpath'
  | none =>
    have hnothing := directoryRetry_eq_none_iff.mp hretry
    rw [resolve_of_again hformat hfirst (.bare hnothing), hfirst]
    refine .directory hpass hdirectory (fun file hfile => ?_) hpath
    rw [← hjoin (hcandidates file hfile)]
    exact hnothing _ hpath file hfile

/-- **What comes of a relative specifier** whose last segment is a plain name. -/
theorem relativeOutcome :
    RelativeOutcome fs (spell lead (front ++ [last]))
      (rooted (reach names.dropLast (lead :: front) ++ [last]))
      (resolve fs (StrictHost.resolver fs) () (spell lead (front ++ [last])) context).value.2 := by
  obtain ⟨base, url, hbase, hjoin, hpath, hfirst⟩ :=
    resolve_eq_resolveUrl fs hnames hlead hfront hparent hlast
  cases hformat : syntheticFormat? (Specifier.classify (spell lead (front ++ [last]))) with
  | some format =>
    have hurl : interceptedUrl (spell lead (front ++ [last])) context = .ok url := by
      rw [interceptedUrl, hbase]
      simp only [hjoin]
      rfl
    rw [value_resolve_of_format (StrictHost.resolver fs) () hformat, hurl]
    exact .intercepted hformat hpath
  | none =>
    rcases fs.node?_cases (isAbsolute_rooted _) with
      hnone | ⟨-, hdirectory⟩ | ⟨-, hfile⟩
    · exact relativeOutcome_of_none hnames hlead hfront hlast hparent hformat hnone
    · exact relativeOutcome_of_isDirectory hnames hlead hfront hlast hparent hformat hdirectory
    · rw [StrictHost.resolveUrl_of_isFile hpath hfile] at hfirst
      rw [resolve_of_ok hformat hfirst]
      exact .file (syntheticFormat?_eq_none_iff.mp hformat) hfile hpath

end Answers

/-- **A relative import between plain names comes to what is on the disk.** The
importer has a path of plain names, and the specifier consists of `.` and `..`
segments and then of plain names; the target is the lexical join of the
importer's directory and the specifier. An intercepted specifier leads to the
target whatever is there. Otherwise a file is the result itself, a directory
gives the first of its candidates that is a file, where nothing is the result
is the script beside the target; and there is no other answer than these and
the two failures that carry the URL of the target. -/
theorem resolve_relative (fs : FileSystem) {names leads segments : List Text}
    {context : ResolveContext} (hnames : ∀ s ∈ names, IsPlainName s) (hleads : leads ≠ [])
    (hdots : ∀ s ∈ leads, s = ['.'] ∨ s = ['.', '.']) (hne : segments ≠ [])
    (hsegments : ∀ s ∈ segments, IsPlainName s)
    (hparent : context.parentUrl = Url.ofFilePath? (rooted names)) :
    let specifier := Text.join "/" (leads ++ segments)
    let target := normalise (join ((parent? (rooted names)).getD "/") specifier)
    RelativeOutcome fs specifier target
      (resolve fs (StrictHost.resolver fs) () specifier context).value.2 := by
  intro specifier target
  obtain ⟨lead, dots, rfl⟩ := List.exists_cons_of_ne_nil hleads
  obtain ⟨middle, last, rfl⟩ := (List.eq_nil_or_concat' segments).resolve_left hne
  obtain ⟨hlead, hdots⟩ := List.forall_mem_cons.mp hdots
  obtain ⟨hmiddle, hlast⟩ := List.forall_mem_append.mp hsegments
  have hlast : IsPlainName last := List.forall_mem_singleton.mp hlast
  have hfront : ∀ s ∈ dots ++ middle, IsPlainSegment s :=
    List.forall_mem_append.mpr ⟨fun s hs => Or.inl (hdots s hs), fun s hs => Or.inr (hmiddle s hs)⟩
  have hspecifier : specifier = spell lead (dots ++ middle ++ [last]) := by
    rw [spell, List.append_assoc, ← List.cons_append]
  have htarget : target = rooted (reach names.dropLast (lead :: (dots ++ middle)) ++ [last]) := by
    show normalise (join _ specifier) = _
    rw [hspecifier, normalise_join_spell hnames hlead hfront hlast]
  rw [htarget, hspecifier]
  exact relativeOutcome hnames hlead hfront hlast hparent

/-- From `/app/main.js`, the directory `./lib` with an entry file. -/
theorem resolve_relative_directory :
    let fs : FileSystem := {
      nodes := [(["app".toList], .directory), (["app".toList, "lib".toList], .directory),
        (["app".toList, "lib".toList, "index.js".toList], .file [])] }
    let context : ResolveContext := { parentUrl := Url.ofFilePath? "/app/main.js" }
    RelativeOutcome fs "./lib" "/app/lib"
      (resolve fs (StrictHost.resolver fs) () "./lib" context).value.2 := by
  intro fs context
  have hnames : ∀ s ∈ ["app".toList, "main.js".toList], IsPlainName s := by decide
  have hdots : ∀ s ∈ [".".toList], s = ['.'] ∨ s = ['.', '.'] := by decide
  have hsegments : ∀ s ∈ ["lib".toList], IsPlainName s := by decide
  exact resolve_relative fs hnames (List.cons_ne_nil _ _) hdots (List.cons_ne_nil _ _) hsegments rfl

/-! ## From a path with dots -/

/-- **What an intercepted specifier means from a path with dots.**

Let the steps of an absolute path be plain names and `..`, and let an intercepted specifier
consist of `.` and `..` segments and then of plain names. With the path for the importer the
specifier is resolved, whatever the host and the files, to the importer's directory without its
last steps, one for each `..` of the specifier, and with the names of the specifier after it.
Normalised, this is the directory joined with the specifier exactly if none of the steps that
are left away is a `..` itself, or if what is left of the directory is the root. -/
theorem resolve_parent_iff {p : Path} {leads names : List Text} {format : ModuleFormat}
    (hp : isAbsolute p = true) (hsteps : ∀ s ∈ steps p, IsPlainSegment s)
    (hdots : ∀ s ∈ leads, s = ['.'] ∨ s = ['.', '.']) (hne : names ≠ [])
    (hnames : ∀ s ∈ names, IsPlainName s)
    (hformat : syntheticFormat? (Specifier.classify (Text.join "/" (leads ++ names)))
      = some format) :
    let specifier := Text.join "/" (leads ++ names)
    let directory := (steps p).dropLast
    let up := leads.count ['.', '.']
    ∃ context, ResolveContext.ofParentPath p = .ok context ∧
      ∀ {σ : Type} (fs : FileSystem) (host : ResolveHost σ) (state : σ), ∃ m q,
        (resolve fs host state specifier context).value = (state, .ok m)
          ∧ m.url.toFilePath? = some q ∧ q = rooted (directory.rdrop up ++ names)
          ∧ (normalise q = normalise (join ((parent? p).getD "/") specifier) ↔
            (∀ s ∈ directory.rtake up, s ≠ ['.', '.'])
              ∨ normalise (rooted (directory.rdrop up)) = "/") := by
  intro specifier directory up
  obtain ⟨middle, last, rfl⟩ := (List.eq_nil_or_concat' names).resolve_left hne
  obtain ⟨hmiddle, hlast⟩ := List.forall_mem_append.mp hnames
  have hfront : ∀ s ∈ leads ++ middle, IsPlainSegment s :=
    List.forall_mem_append.mpr ⟨fun s hs => Or.inl (hdots s hs), fun s hs => Or.inr (hmiddle s hs)⟩
  have hsegments : ∀ s ∈ leads ++ (middle ++ [last]), IsPlainSegment s :=
    List.forall_mem_append.mpr ⟨fun s hs => Or.inl (hdots s hs), fun s hs => Or.inr (hnames s hs)⟩
  obtain ⟨url, hjoin, hpath⟩ :=
    Url.join_of_isPlainSegment hsteps hfront (List.forall_mem_singleton.mp hlast)
  rw [List.append_assoc] at hjoin hpath
  have hdown : ∀ s ∈ middle ++ [last], isIdle s = false ∧ s ≠ ['.', '.'] := fun s hs =>
    ⟨(hnames s hs).isStep.1, (hnames s hs).ne_above⟩
  rw [reach_append, reach_leads hdots, reach_eq_append hdown] at hpath
  refine ⟨{ parentUrl := some (Url.fileUrl (.domain []) (Url.fileSegments (steps p))) }, ?_,
    fun fs host state =>
      ⟨{ url, format := some format, shortCircuit := true }, _, ?_, hpath, rfl, ?_⟩⟩
  · rw [ResolveContext.ofParentPath, Url.ofFilePath?_of_isAbsolute hp]
  · rw [value_resolve_of_format host state hformat, interceptedUrl]
    simp only [hjoin]
    rfl
  · have hrelative : isAbsolute (Text.join "/" (leads ++ (middle ++ [last]))) = false :=
      Url.isAbsolute_join_of_isPlainSegment (List.append_ne_nil_of_right_ne_nil leads hne)
        hsegments
    have law := normalise_rdrop_iff (isAbsolute_directory hp) hdots hne
      (fun s hs => ⟨(hnames s hs).isStep, (hnames s hs).ne_above⟩) hrelative
    rw [steps_parent? hp] at law
    exact law

/-- **The law at a path with one `..`**: a specifier with one `..` leads where it should, and
one with two does not. -/
theorem resolve_parent_iff_detour :
    ∃ context, ResolveContext.ofParentPath "/app/../lib/main.js".toList = .ok context
      ∧ (∃ m, (resolve {} ResolveHost.scripted [] "../x.css".toList context).value = ([], .ok m)
        ∧ m.url.toFilePath? = some "/app/../x.css".toList
        ∧ normalise "/app/../x.css".toList
          = normalise (join "/app/../lib".toList "../x.css".toList))
      ∧ ∃ m, (resolve {} ResolveHost.scripted [] "../../x.css".toList context).value = ([], .ok m)
        ∧ m.url.toFilePath? = some "/app/x.css".toList
        ∧ normalise "/app/x.css".toList
          ≠ normalise (join "/app/../lib".toList "../../x.css".toList) := by
  have hsteps : ∀ s ∈ steps "/app/../lib/main.js".toList, IsPlainSegment s := by decide
  obtain ⟨context, hcontext, once⟩ := @resolve_parent_iff "/app/../lib/main.js".toList
    [['.', '.']] ["x.css".toList] .stylesheet rfl hsteps (by decide) (by decide) (by decide)
    (by decide)
  obtain ⟨context', hcontext', twice⟩ := @resolve_parent_iff "/app/../lib/main.js".toList
    [['.', '.'], ['.', '.']] ["x.css".toList] .stylesheet rfl hsteps (by decide) (by decide)
    (by decide) (by decide)
  obtain rfl : context = context' := Except.ok.inj (hcontext.symm.trans hcontext')
  refine ⟨context, hcontext, ?_, ?_⟩
  · obtain ⟨m, q, hm, hq, rfl, hlaw⟩ := once {} ResolveHost.scripted []
    exact ⟨m, hm, hq, hlaw.mpr (Or.inl (by decide))⟩
  · obtain ⟨m, q, hm, hq, rfl, hlaw⟩ := twice {} ResolveHost.scripted []
    exact ⟨m, hm, hq, fun h => absurd (hlaw.mp h) (by decide)⟩

end ModuleHooks.Import
