import ModuleHooks.Import.Resolve
import ModuleHooks.Proofs.FileSystem.IdleSegments
import ModuleHooks.Proofs.Import.Containment
import ModuleHooks.Proofs.Url.LiteralPath
/-!
# Absolute paths with and without an importer

A specifier that begins with a slash is read in two ways. With an importer it is a reference, a
piece of the text of a URL; without one it is a path. The two agree on the file, up to lexical
normalisation, where the path means itself as a reference (`Url.IsLiteralPath`), and where the
importer does not stand on a drive. Both the hooks and the strict host are as good as their readers
here: neither fails where the other does not (`resolve_absolute`).

The strict host looks at the disk, too. There it matters how the path is written: without an
importer `..` is walked on the disk, with one it has been taken away in the text, and a slash at the
end asks for a directory. So the strict host finds something in both ways or in neither only for
paths that lead down to a name (`node?_closeDrive_congr`).
-/

namespace ModuleHooks

open ModuleHooks.Path

/-! ## Looking up the two paths -/

section Paths

variable {fs : FileSystem} {names dirs dirs' front : List Text} {last : Text}

/-- What stands before the last segment plays no part in whether it is closed as a drive letter. -/
theorem endsInDrive_append_cons (hlast : last ≠ []) (p : Path) :
    Url.endsInDrive (p ++ '/' :: last) = Url.endsInDrive ('/' :: last) := by
  obtain ⟨stem, b, rfl⟩ := (List.eq_nil_or_concat' last).resolve_left hlast
  rcases List.eq_nil_or_concat' stem with rfl | ⟨stem, a, rfl⟩
  · rcases List.eq_nil_or_concat' p with rfl | ⟨p, c, rfl⟩
    · rfl
    · simp [Url.endsInDrive]
  · rcases List.eq_nil_or_concat' stem with rfl | ⟨stem, c, rfl⟩ <;> simp [Url.endsInDrive]

/-- Segments without slashes are what the path of them is cut into. -/
theorem splitOn_rooted (hne : names ≠ []) (h : ∀ s ∈ names, '/' ∉ s) :
    Text.splitOn '/' (rooted names) = [] :: names := by
  have hsplit : Text.splitOn '/' (rooted names) = [] :: Text.splitOn '/' (Text.join ['/'] names) :=
    Text.splitOn_append_cons '/' [] (Text.join ['/'] names)
  rw [hsplit, Text.splitOn_join hne h]

/-- A path of fewer of the segments is no longer. -/
theorem utf8Length_rooted_le (h : dirs.Sublist front) (last : Text) :
    Text.utf8Length (rooted (dirs ++ [last])) ≤ Text.utf8Length (rooted (front ++ [last])) := by
  have hne : ∀ dirs : List Text, dirs ++ [last] ≠ [] := fun dirs =>
    List.append_ne_nil_of_right_ne_nil dirs (List.cons_ne_nil last [])
  rw [rooted_eq_flatMap (hne dirs), rooted_eq_flatMap (hne front)]
  induction h with
  | slnil => exact le_rfl
  | cons s _ ih =>
    rw [List.cons_append, List.flatMap_cons, FileSystem.utf8Length_append]
    exact ih.trans (Nat.le_add_left _ _)
  | cons_cons s _ ih =>
    rw [List.cons_append, List.cons_append, List.flatMap_cons, List.flatMap_cons,
      FileSystem.utf8Length_append, FileSystem.utf8Length_append]
    exact Nat.add_le_add_left ih _

/-- **How a path with a name at its end is closed**: by a slash if the name ends in a drive letter.
Its steps stay the same, and it gets longer by one character at most. -/
theorem closeDrive_rooted_concat (hslash : ∀ s ∈ dirs ++ [last], '/' ∉ s)
    (hidle : isIdle last = false) :
    FileSystem.endsIdly (Url.closeDrive (rooted (dirs ++ [last]))) = Url.endsInDrive ('/' :: last)
      ∧ Text.utf8Length (Url.closeDrive (rooted (dirs ++ [last])))
        ≤ Text.utf8Length (rooted (dirs ++ [last])) + 1 := by
  have hne : dirs ++ [last] ≠ [] :=
    List.append_ne_nil_of_right_ne_nil dirs (List.cons_ne_nil last [])
  have hdrive : Url.endsInDrive (rooted (dirs ++ [last])) = Url.endsInDrive ('/' :: last) := by
    rcases List.eq_nil_or_concat' dirs with rfl | ⟨dirs, dir, rfl⟩
    · rw [List.nil_append, rooted, Text.join_singleton]
    · rw [rooted_concat (List.append_ne_nil_of_right_ne_nil dirs (List.cons_ne_nil dir []))]
      exact endsInDrive_append_cons (isIdle_eq_false_iff.mp hidle).1 _
  rw [Url.closeDrive, hdrive]
  cases Url.endsInDrive ('/' :: last) with
  | true =>
    have hsplit := Text.splitOn_append_cons '/' (rooted (dirs ++ [last])) []
    refine ⟨?_, (FileSystem.utf8Length_append _ _).le⟩
    rw [if_pos rfl, FileSystem.endsIdly, hsplit, FileSystem.endsIdle_append (by decide)]
    rfl
  | false =>
    refine ⟨?_, Nat.le_succ _⟩
    rw [if_neg Bool.false_ne_true, FileSystem.endsIdly, splitOn_rooted hne hslash,
      ← List.cons_append, FileSystem.endsIdle_append (List.cons_ne_nil last [])]
    exact hidle

/-- **Two ways to write the path down to a name** are the same to the disk, if they have the same
steps and are not too long. -/
theorem node?_closeDrive_congr (hslash : ∀ s ∈ front ++ [last], '/' ∉ s)
    (hidle : isIdle last = false) (hlength : Text.utf8Length (rooted (front ++ [last])) < 4095)
    (hdirs : dirs.Sublist front) (hdirs' : dirs'.Sublist front)
    (hsteps : steps (rooted (dirs ++ [last])) = steps (rooted (dirs' ++ [last]))) :
    fs.node? (Url.closeDrive (rooted (dirs ++ [last])))
      = fs.node? (Url.closeDrive (rooted (dirs' ++ [last]))) := by
  have hparts : ∀ {dirs : List Text}, dirs.Sublist front →
      FileSystem.endsIdly (Url.closeDrive (rooted (dirs ++ [last]))) = Url.endsInDrive ('/' :: last)
        ∧ Text.utf8Length (Url.closeDrive (rooted (dirs ++ [last]))) ≤ 4095 := by
    intro dirs hsub
    obtain ⟨hends, hclosed⟩ := closeDrive_rooted_concat
      (fun s hs => hslash s ((hsub.append_right [last]).subset hs)) hidle
    have hle := utf8Length_rooted_le hsub last
    exact ⟨hends, by omega⟩
  obtain ⟨hends, hle⟩ := hparts hdirs
  obtain ⟨hends', hle'⟩ := hparts hdirs'
  refine FileSystem.node?_congr (Url.isAbsolute_closeDrive rfl) (Url.isAbsolute_closeDrive rfl) ?_
    (hends.trans hends'.symm) hle hle'
  rw [Url.steps_closeDrive, Url.steps_closeDrive, hsteps]

end Paths

/-! ## Both readings -/

/-- **URLs of one file**, up to lexical normalisation. -/
def Url.SameFile (u v : Url) : Prop :=
  ∃ p q, u.toFilePath? = some p ∧ v.toFilePath? = some q ∧ normalise p = normalise q

/-- **An importer that leaves absolute paths alone**: a file without a host and not on a drive. -/
structure Url.IsPlainBase (base : Url) : Prop where
  isFileUrl : base.IsFileUrl
  host_eq : base.host? = none
  driveless : ∀ s ∈ base.segmentList.head?, Url.isNormalDrive s = false

section Readings

variable {fs : FileSystem} {base : Url} {p : Path}

/-- **Both readings of a literal path** lead to one file. -/
theorem Url.exists_sameFile (hbase : base.IsPlainBase) (h : Url.IsLiteralPath p) :
    ∃ u v, base.join p = .ok u ∧ Url.ofFilePath? p = some v ∧ u.SameFile v := by
  obtain ⟨u, q, hu, hq, hnames⟩ :=
    Url.exists_join_of_isLiteralPath hbase.isFileUrl hbase.host_eq hbase.driveless h
  obtain ⟨v, hv⟩ := Option.isSome_iff_exists.mp (Url.ofFilePath?_isSome_iff.mpr h.isAbsolute)
  refine ⟨u, v, hu, hv, q, _, hq, Url.toFilePath?_ofFilePath? hv, ?_⟩
  rw [normalise, normalise, hnames, Url.normalNames_settle h.isAbsolute]

/-- A path that does not end in an idle segment ends in a name. -/
theorem exists_last_of_endsIdly {q : Text} (hq : p = '/' :: q ∨ p = '/' :: '/' :: q)
    (hends : FileSystem.endsIdly p = false) :
    ∃ front last, Text.splitOn '/' q = front ++ [last] ∧ isIdle last = false := by
  have hcons : ∀ q : Text, FileSystem.endsIdly ('/' :: q) = FileSystem.endsIdly q := fun q =>
    @FileSystem.endsIdle_append [[]] _ (Text.splitOn_ne_nil '/' q)
  have hendsQ : FileSystem.endsIdly q = false := by
    rcases hq with rfl | rfl
    · rwa [hcons] at hends
    · rwa [hcons, hcons] at hends
  obtain ⟨front, last, hsplit⟩ :=
    (List.eq_nil_or_concat' (Text.splitOn '/' q)).resolve_left (Text.splitOn_ne_nil '/' q)
  refine ⟨front, last, hsplit, ?_⟩
  rw [FileSystem.endsIdly, FileSystem.endsIdle, hsplit, List.getLast?_concat] at hendsQ
  exact hendsQ

/-- A literal path is no shorter than what the reader of references sees of it. -/
theorem utf8Length_rooted_splitOn_le {q : Text} (hq : p = '/' :: q ∨ p = '/' :: '/' :: q) :
    Text.utf8Length (rooted (Text.splitOn '/' q)) ≤ Text.utf8Length p := by
  have hrooted : rooted (Text.splitOn '/' q) = '/' :: q :=
    congrArg (List.cons '/') (Text.join_splitOn '/' q)
  rw [hrooted]
  rcases hq with rfl | rfl
  · exact le_rfl
  · exact (Nat.le_add_left _ _).trans (FileSystem.utf8Length_append ['/'] ('/' :: q)).ge

/-- **The disk holds the same for both readings** of a literal path down to a name. -/
theorem node?_eq_of_isLiteralPath (hbase : base.IsPlainBase) (h : Url.IsLiteralPath p)
    (habove : ['.', '.'] ∉ steps p) (hends : FileSystem.endsIdly p = false)
    (hlength : Text.utf8Length p < 4095) {u v : Url} (hu : base.join p = .ok u)
    (hv : Url.ofFilePath? p = some v) {q r : Path} (hq : u.toFilePath? = some q)
    (hr : v.toFilePath? = some r) : fs.node? q = fs.node? r := by
  obtain ⟨t, ht, hjoin⟩ :=
    Url.join_of_isLiteralPath hbase.isFileUrl hbase.host_eq hbase.driveless h
  obtain ⟨front, last, hsplit, hidle⟩ := exists_last_of_endsIdly ht hends
  obtain ⟨dirs, hdirs, hpath⟩ := Url.segmentPath_of_ne_above h ht habove hsplit hidle
  obtain rfl : Url.segmentPath (Url.pathAfter "file" [] t) = q := by
    rw [hjoin] at hu
    obtain rfl := Except.ok.inj hu
    exact Option.some.inj ((Url.toFilePath?_fileUrl (Url.pathAfter_ne_nil [] t)).symm.trans hq)
  obtain rfl : Url.settle p = r := Option.some.inj ((Url.toFilePath?_ofFilePath? hv).symm.trans hr)
  -- The one path keeps empty segments between names, the other one has the steps alone.
  have hstepsP : steps p = front.filter (fun s => !isIdle s) ++ [last] := by
    rw [Url.IsLiteralPath.steps_eq ht, steps, hsplit, List.filter_append,
      List.filter_cons_of_pos (by rw [hidle]; rfl)]
    rfl
  have hstepsT : steps (rooted (dirs ++ [last])) = steps p := by
    rw [← Url.steps_closeDrive, ← hpath, h.steps_segmentPath_pathAfter ht,
      normalNames_eq h.isAbsolute, foldl_climb_of_ne_above, List.append_nil, List.reverse_reverse]
    rintro s hs rfl
    exact habove hs
  have hbound : Text.utf8Length (rooted (front ++ [last])) < 4095 :=
    lt_of_le_of_lt (hsplit ▸ utf8Length_rooted_splitOn_le ht) hlength
  rw [hpath, Url.settle, hstepsP]
  refine node?_closeDrive_congr (fun s hs => ?_) hidle hbound hdirs List.filter_sublist ?_
  · exact Text.notMem_of_mem_splitOn (hsplit ▸ hs)
  · rw [hstepsT, ← hstepsP, steps_rooted fun s hs => isStep_of_mem_steps hs]

end Readings

/-! ## Both answers -/

section Answers

variable {fs : FileSystem} {base : Url} {s : Text} {context context' : ResolveContext}

/-- **The strict host reads an absolute path** against the importer, if there is one. -/
theorem StrictHost.resolve_of_isAbsolute (hs : isAbsolute s = true) (context : ResolveContext) :
    StrictHost.resolve fs s context = StrictHost.resolveRelative fs s context.parentUrl := by
  obtain ⟨r, rfl⟩ := exists_of_isAbsolute hs
  have hrelative : StrictHost.isRelative ('/' :: r) = true := by
    simp [StrictHost.isRelative, Text.startsWith]
  rw [StrictHost.resolve, StrictHost.lookup_of_cons (by decide) (by decide) r]
  simp only [hrelative, if_true]

/-- A URL is answered with exactly if something stands at its path that is no directory. -/
theorem StrictHost.exists_resolveUrl_iff {url : Url} {p : Path} (hp : url.toFilePath? = some p) :
    (∃ m, StrictHost.resolveUrl fs s url = .ok m)
      ↔ ∃ node, fs.node? p = some node ∧ node ≠ .directory := by
  constructor
  · rintro ⟨m, hm⟩
    obtain ⟨q, node, hq, hnode, hne, -⟩ := StrictHost.eq_of_resolveUrl hm
    obtain rfl := Option.some.inj (hp.symm.trans hq)
    exact ⟨node, hnode, hne⟩
  · rintro ⟨node, hnode, hne⟩
    rw [StrictHost.resolveUrl, hp]
    simp only [hnode, if_neg hne]
    exact ⟨_, rfl⟩

/-- **An absolute path names the same file with and without an importer**, if it means itself as a
reference and the importer is a file without a host and not on a drive.

The hooks answer in both cases, and with URLs of one file. If the strict host answers in both cases,
it is with URLs of one file, too. It answers in both cases or in neither, if the path leads down to
a name and is not too long. -/
theorem resolve_absolute (hbase : base.IsPlainBase) (h : Url.IsLiteralPath s)
    (hparent : context.parentUrl = some base) (hnone : context'.parentUrl = none) :
    (∀ {σ : Type} (host : ResolveHost σ) (state : σ) (format : ModuleFormat),
      Import.syntheticFormat? (Specifier.classify s) = some format → ∃ u v,
        (Import.resolve fs host state s context).value
            = (state, .ok { url := u, format := some format, shortCircuit := true })
          ∧ (Import.resolve fs host state s context').value
            = (state, .ok { url := v, format := some format, shortCircuit := true })
          ∧ u.SameFile v)
      ∧ (∀ m n, StrictHost.resolve fs s context = .ok m → StrictHost.resolve fs s context' = .ok n →
        m.url.SameFile n.url)
      ∧ (['.', '.'] ∉ steps s → FileSystem.endsIdly s = false → Text.utf8Length s < 4095 →
        ((∃ m, StrictHost.resolve fs s context = .ok m)
          ↔ ∃ n, StrictHost.resolve fs s context' = .ok n)) := by
  obtain ⟨u, v, hu, hv, hsame⟩ := Url.exists_sameFile hbase h
  have hwith : StrictHost.resolve fs s context = StrictHost.resolveUrl fs s u := by
    rw [StrictHost.resolve_of_isAbsolute h.isAbsolute, hparent, StrictHost.resolveRelative]
    simp only [hu]
  have hwithout : StrictHost.resolve fs s context' = StrictHost.resolveUrl fs s v := by
    rw [StrictHost.resolve_of_isAbsolute h.isAbsolute, hnone, StrictHost.resolveRelative]
    simp only [hv]
  refine ⟨fun host state format hformat => ⟨u, v, ?_, ?_, hsame⟩, fun m n hm hn => ?_,
    fun habove hends hlength => ?_⟩
  · rw [Import.value_resolve_of_format host state hformat, Import.interceptedUrl, hparent]
    simp only [hu]
    rfl
  · rw [Import.value_resolve_of_format host state hformat, Import.interceptedUrl, hnone]
    simp only [h.isAbsolute, if_true, hv]
    rfl
  · rw [hwith] at hm
    rw [hwithout] at hn
    obtain ⟨-, -, -, -, -, rfl⟩ := StrictHost.eq_of_resolveUrl hm
    obtain ⟨-, -, -, -, -, rfl⟩ := StrictHost.eq_of_resolveUrl hn
    exact hsame
  · obtain ⟨p, q, hp, hq, -⟩ := hsame
    rw [hwith, hwithout, StrictHost.exists_resolveUrl_iff hp, StrictHost.exists_resolveUrl_iff hq,
      node?_eq_of_isLiteralPath hbase h habove hends hlength hu hv hp hq]

end Answers

theorem exists_ok_iff {ε α : Type} {x : Except ε α} : (∃ a, x = .ok a) ↔ x.isOk = true := by
  cases x with
  | ok a => exact iff_of_true ⟨a, rfl⟩ rfl
  | error why => exact iff_of_false (fun ⟨a, ha⟩ => by cases ha) Bool.false_ne_true

/-- The URL of an importer in a directory of its own. -/
def importer : Url := Url.fileUrl (.domain []) ["app".toList, "main.js".toList]

/-- A path with all that may be in it: slashes in a row, `.`, a percent sign, a blank, a letter that
is encoded, and a name that `..` takes away. With and without an importer it is the same stylesheet.
A path of this kind that leads down is also the same module to the strict host. -/
theorem resolve_absolute_awkward :
    let context : ResolveContext := { parentUrl := some importer }
    let sheet := "///app/./lib//100% à/../x.css".toList
    let module := "///app/./lib//100% à.js".toList
    let fs : FileSystem := { nodes := [(["app".toList], .directory),
      (["app".toList, "lib".toList], .directory),
      (["app".toList, "lib".toList, "100% à.js".toList], .file [])] }
    importer.IsPlainBase ∧ Url.IsLiteralPath sheet ∧ Url.IsLiteralPath module
      ∧ (∃ u v,
        (Import.resolve fs (StrictHost.resolver fs) () sheet context).value
            = ((), .ok { url := u, format := some .stylesheet, shortCircuit := true })
          ∧ (Import.resolve fs (StrictHost.resolver fs) () sheet {}).value
            = ((), .ok { url := v, format := some .stylesheet, shortCircuit := true })
          ∧ u.SameFile v)
      ∧ ∃ m n, StrictHost.resolve fs module context = .ok m
        ∧ StrictHost.resolve fs module {} = .ok n ∧ m.url.SameFile n.url := by
  intro context sheet module fs
  have hbase : importer.IsPlainBase := by
    refine ⟨⟨rfl, _, _, rfl⟩, rfl, fun s hs => ?_⟩
    cases hs
    decide
  have hsheet : Url.IsLiteralPath sheet := by decide +kernel +zetaReduce
  have hmodule : Url.IsLiteralPath module := by decide +kernel +zetaReduce
  have hformat : Import.syntheticFormat? (Specifier.classify sheet) = some .stylesheet := by
    decide +kernel +zetaReduce
  have hfound : ∃ n, StrictHost.resolve fs module {} = .ok n :=
    exists_ok_iff.mpr (by decide +kernel +zetaReduce)
  have habove : ['.', '.'] ∉ steps module := by decide +zetaReduce
  have hends : FileSystem.endsIdly module = false := by decide +zetaReduce
  have hlength : Text.utf8Length module < 4095 := by decide +kernel +zetaReduce
  obtain ⟨hhooks, -, -⟩ := @resolve_absolute fs importer sheet context {} hbase hsheet rfl rfl
  obtain ⟨-, hhost, hboth⟩ := @resolve_absolute fs importer module context {} hbase hmodule rfl rfl
  obtain ⟨n, hn⟩ := hfound
  obtain ⟨m, hm⟩ := (hboth habove hends hlength).mpr ⟨n, hn⟩
  exact ⟨hbase, hsheet, hmodule, hhooks _ () .stylesheet hformat, m, n, hm, hn, hhost m n hm hn⟩

/-! ## Where the two part -/

/-- URLs of one file have the same normalised path. -/
theorem Url.map_normalise_eq {x y : Except LoaderError Url}
    (h : ∃ u v, x = .ok u ∧ y = .ok v ∧ u.SameFile v) :
    (x.toOption.bind Url.toFilePath?).map normalise
      = (y.toOption.bind Url.toFilePath?).map normalise := by
  obtain ⟨u, v, rfl, rfl, p, q, hp, hq, heq⟩ := h
  show u.toFilePath?.map normalise = v.toFilePath?.map normalise
  rw [hp, hq, Option.map_some, Option.map_some, heq]

/-- **What a literal path may not have in it.** To an importer a triple stands for a character, a
mark ends the path, a backslash is a slash, a tab is nothing, two slashes at the front are followed
by a host, `..` takes an empty segment away, and a drive letter has a colon. -/
theorem not_sameFile_of_mem :
    ∀ s ∈ ["/app/a%20b.css".toList, "/app/a?b.css".toList, "/app/a#b.css".toList,
        "/app/a\\b.css".toList, "/app/a\tb.css".toList, "//app/a.css".toList,
        "/app//../a.css".toList, "/C|/a.css".toList],
      isAbsolute s = true ∧ (Specifier.classify s).isIntercepted = true
        ∧ ¬ ∃ u v, Import.interceptedUrl s { parentUrl := some importer } = .ok u
          ∧ Import.interceptedUrl s {} = .ok v ∧ u.SameFile v := by
  have hdiffer : ∀ s ∈ ["/app/a%20b.css".toList, "/app/a?b.css".toList, "/app/a#b.css".toList,
        "/app/a\\b.css".toList, "/app/a\tb.css".toList, "//app/a.css".toList,
        "/app//../a.css".toList, "/C|/a.css".toList],
      isAbsolute s = true ∧ (Specifier.classify s).isIntercepted = true
        ∧ ((Import.interceptedUrl s { parentUrl := some importer }).toOption.bind
            Url.toFilePath?).map normalise
          ≠ ((Import.interceptedUrl s {}).toOption.bind Url.toFilePath?).map normalise := by
    decide +kernel
  intro s hs
  obtain ⟨habsolute, hclass, hne⟩ := hdiffer s hs
  exact ⟨habsolute, hclass, fun h => hne (Url.map_normalise_eq h)⟩

/-- **An absolute path need not name the same file with an importer**, not even to the hooks. To the
strict host it may lead to a file with an importer and to nothing without one, since a directory
that `..` leaves again is looked for only then. -/
theorem not_forall_sameFile :
    (¬ ∀ (base : Url) (s : Text) (context context' : ResolveContext), base.IsFileUrl →
      base.host? = none → isAbsolute s = true → (Specifier.classify s).isIntercepted = true →
      context.parentUrl = some base → context'.parentUrl = none →
      ∃ u v, Import.interceptedUrl s context = .ok u ∧ Import.interceptedUrl s context' = .ok v
        ∧ u.SameFile v)
    ∧ ¬ ∀ (fs : FileSystem) (base : Url) (s : Text) (context context' : ResolveContext),
      base.IsFileUrl → base.host? = none → isAbsolute s = true →
      context.parentUrl = some base → context'.parentUrl = none →
      ((∃ m, StrictHost.resolve fs s context = .ok m)
        ↔ ∃ n, StrictHost.resolve fs s context' = .ok n) := by
  have hbase : importer.IsFileUrl := ⟨rfl, _, _, rfl⟩
  constructor
  · intro h
    obtain ⟨habsolute, hclass, hnot⟩ := not_sameFile_of_mem "/app/a%20b.css".toList (by simp)
    exact hnot (h importer _ { parentUrl := some importer } {} hbase rfl habsolute hclass rfl rfl)
  · intro h
    have hiff := h { nodes := [(["a.js".toList], .file [])] } importer "/none/../a.js".toList
      { parentUrl := some importer } {} hbase rfl rfl rfl rfl
    rw [exists_ok_iff, exists_ok_iff] at hiff
    exact absurd (hiff.mp (by decide +kernel)) (by decide +kernel)

end ModuleHooks
