import Mathlib
import ModuleHooks.Import.Resolve
/-!
# What is asked of the host

A host may keep a state of its own and answer every question differently, so
what the hook does to it is not a property of its answers but of the
*conversation*: which questions are put, in which order, and which answer is
passed on. `ResolveHost.recording` writes the conversation down, and this
module says what it is.

There are three conversations. An intercepted specifier is answered without
the host. A failure that carries a URL is followed by one more question, whose
specifier `SecondQuestion` tells from what stands on the disk beside that URL.
Every other answer of the host, good or bad, is passed on at once. The context
of the import goes along unchanged in each of them.
-/

namespace ModuleHooks.Import

variable {σ : Type}

/-! ## The second question -/

/-- **The URL from which a second attempt can start.** Only two failures carry
one. -/
def failedUrl? : Except ResolveError ResolvedModule → Option Url
  | .error (.directoryImport _ url) => some url
  | .error (.moduleNotFound _ url) => url
  | _ => none

/-- **The specifier of the second question**, told from the first failure and
the disk. For a directory the first candidate that is a regular file is put
below the specifier, for a missing module the extension is put after it; where
no candidate is there, or the URL leads to no file at all, the specifier is
asked for once more as it is. -/
inductive SecondQuestion (fs : FileSystem) (specifier : Text) : ResolveError → Text → Prop where
  /-- A directory in which a candidate is a regular file. -/
  | entry {asked : Text} {url : Url} {dir : Path} {before after : List Text} {file : Text}
      (leads : url.toFilePath? = some dir)
      (candidates : ["index.js".toList, (Path.fileName? dir).getD [] ++ ".cjs.js".toList,
        (Path.fileName? dir).getD [] ++ ".js".toList] = before ++ file :: after)
      (absent : ∀ other ∈ before, fs.isFile (Path.join dir other) = false)
      (present : fs.isFile (Path.join dir file) = true) :
      SecondQuestion fs specifier (.directoryImport asked url)
        (Text.trimEnd (· == '/') specifier ++ '/' :: file)
  /-- A directory in which no candidate is a regular file. -/
  | bare {asked : Text} {url : Url}
      (absent : ∀ dir, url.toFilePath? = some dir →
        ∀ file ∈ ["index.js".toList, (Path.fileName? dir).getD [] ++ ".cjs.js".toList,
          (Path.fileName? dir).getD [] ++ ".js".toList],
          fs.isFile (Path.join dir file) = false) :
      SecondQuestion fs specifier (.directoryImport asked url) specifier
  /-- A missing module whose path with the extension is a regular file. -/
  | script {asked : Text} {url : Url} {path : Path} (leads : url.toFilePath? = some path)
      (present : fs.isFile (path ++ ".js".toList) = true) :
      SecondQuestion fs specifier (.moduleNotFound asked (some url)) (specifier ++ ".js".toList)
  /-- A missing module whose path with the extension is none. -/
  | missing {asked : Text} {url : Url}
      (absent : ∀ path, url.toFilePath? = some path → fs.isFile (path ++ ".js".toList) = false) :
      SecondQuestion fs specifier (.moduleNotFound asked (some url)) specifier

/-- The specifier with which a directory import is tried again. -/
theorem directoryRetry_eq_some_iff {fs : FileSystem} {specifier : Text} {url : Url} {again : Text} :
    directoryRetry fs specifier url = some again
      ↔ ∃ dir before file after, url.toFilePath? = some dir
        ∧ directoryCandidates dir = before ++ file :: after
        ∧ (∀ other ∈ before, fs.isFile (Path.join dir other) = false)
        ∧ fs.isFile (Path.join dir file) = true ∧ again = extendDirectory specifier file := by
  unfold directoryRetry
  rw [Option.bind_eq_some_iff]
  constructor
  · rintro ⟨dir, hdir, hfind⟩
    obtain ⟨file, hfile, rfl⟩ := Option.map_eq_some_iff.mp hfind
    obtain ⟨hpresent, before, after, hsplit, habsent⟩ := List.find?_eq_some_iff_append.mp hfile
    refine ⟨dir, before, file, after, hdir, hsplit, fun other hother => ?_, hpresent, rfl⟩
    exact (Bool.not_eq_true' _).mp (habsent other hother)
  · rintro ⟨dir, before, file, after, hdir, hsplit, habsent, hpresent, rfl⟩
    refine ⟨dir, hdir, Option.map_eq_some_iff.mpr ⟨file, ?_, rfl⟩⟩
    exact List.find?_eq_some_iff_append.mpr ⟨hpresent, before, after, hsplit,
      fun other hother => (Bool.not_eq_true' _).mpr (habsent other hother)⟩

/-- A directory import is asked for as it is when no candidate is there. -/
theorem directoryRetry_eq_none_iff {fs : FileSystem} {specifier : Text} {url : Url} :
    directoryRetry fs specifier url = none
      ↔ ∀ dir, url.toFilePath? = some dir →
        ∀ file ∈ directoryCandidates dir, fs.isFile (Path.join dir file) = false := by
  unfold directoryRetry
  rw [Option.bind_eq_none_iff]
  refine forall₂_congr (fun dir _ => ?_)
  rw [Option.map_eq_none_iff, List.find?_eq_none]
  simp only [Bool.not_eq_true]

/-- The specifier with which a missing module is tried again. -/
theorem extensionRetry_eq_some_iff {fs : FileSystem} {specifier : Text} {url : Url} {again : Text} :
    extensionRetry fs specifier url = some again
      ↔ ∃ path, url.toFilePath? = some path ∧ fs.isFile (path ++ ".js".toList) = true
        ∧ again = specifier ++ ".js".toList := by
  unfold extensionRetry
  rw [Option.bind_eq_some_iff]
  refine exists_congr (fun path => and_congr_right (fun _ => ?_))
  rw [Option.ite_none_right_eq_some, Option.some_inj]
  exact and_congr_right (fun _ => eq_comm)

/-- A missing module is asked for as it is when nothing has the extension. -/
theorem extensionRetry_eq_none_iff {fs : FileSystem} {specifier : Text} {url : Url} :
    extensionRetry fs specifier url = none
      ↔ ∀ path, url.toFilePath? = some path → fs.isFile (path ++ ".js".toList) = false := by
  unfold extensionRetry
  rw [Option.bind_eq_none_iff]
  refine forall₂_congr (fun path _ => ?_)
  rw [ite_eq_right_iff, ← Bool.not_eq_true]
  exact imp_congr_right (fun _ => iff_of_false (Option.some_ne_none _) id)

/-- The specifier of the second question, without the note that goes with it. -/
def again? (fs : FileSystem) (specifier : Text) (first : Except ResolveError ResolvedModule) :
    Option Text :=
  Option.map Prod.fst <| retry? fs specifier first

theorem again?_directoryImport (fs : FileSystem) (specifier asked : Text) (url : Url) :
    again? fs specifier (.error (.directoryImport asked url))
      = some ((directoryRetry fs specifier url).getD specifier) := by
  unfold again? retry?
  dsimp only
  cases directoryRetry fs specifier url <;> rfl

theorem again?_moduleNotFound (fs : FileSystem) (specifier asked : Text) (url : Url) :
    again? fs specifier (.error (.moduleNotFound asked (some url)))
      = some ((extensionRetry fs specifier url).getD specifier) := by
  unfold again? retry?
  dsimp only
  cases extensionRetry fs specifier url <;> rfl

/-- **The second question is the one that `SecondQuestion` tells**, and no
other specifier would do. -/
theorem secondQuestion_iff {fs : FileSystem} {specifier : Text} {why : ResolveError}
    {again : Text} :
    SecondQuestion fs specifier why again ↔ again? fs specifier (.error why) = some again := by
  constructor
  · rintro (⟨leads, candidates, absent, present⟩ | ⟨absent⟩ | ⟨leads, present⟩ | ⟨absent⟩)
    · rw [again?_directoryImport, directoryRetry_eq_some_iff.mpr
        ⟨_, _, _, _, leads, candidates, absent, present, rfl⟩, Option.getD_some, extendDirectory]
    · rw [again?_directoryImport, directoryRetry_eq_none_iff.mpr absent, Option.getD_none]
    · rw [again?_moduleNotFound, extensionRetry_eq_some_iff.mpr ⟨_, leads, present, rfl⟩,
        Option.getD_some]
    · rw [again?_moduleNotFound, extensionRetry_eq_none_iff.mpr absent, Option.getD_none]
  · intro h
    cases why with
    | directoryImport asked url =>
      rw [again?_directoryImport, Option.some_inj] at h
      cases hretry : directoryRetry fs specifier url with
      | some adjusted =>
        rw [hretry, Option.getD_some] at h
        obtain ⟨dir, before, file, after, hdir, hsplit, habsent, hpresent, rfl⟩ :=
          directoryRetry_eq_some_iff.mp hretry
        exact h ▸ .entry hdir hsplit habsent hpresent
      | none =>
        rw [hretry, Option.getD_none] at h
        exact h ▸ .bare (directoryRetry_eq_none_iff.mp hretry)
    | moduleNotFound asked url =>
      cases url with
      | none => cases h
      | some url =>
        rw [again?_moduleNotFound, Option.some_inj] at h
        cases hretry : extensionRetry fs specifier url with
        | some adjusted =>
          rw [hretry, Option.getD_some] at h
          obtain ⟨path, hpath, hpresent, rfl⟩ := extensionRetry_eq_some_iff.mp hretry
          exact h ▸ .script hpath hpresent
        | none =>
          rw [hretry, Option.getD_none] at h
          exact h ▸ .missing (extensionRetry_eq_none_iff.mp hretry)
    | _ => cases h

/-- There is a second question exactly after a failure that carries a URL. -/
theorem again?_eq_none_iff {fs : FileSystem} {specifier : Text}
    {first : Except ResolveError ResolvedModule} :
    again? fs specifier first = none ↔ failedUrl? first = none := by
  cases first with
  | ok resolved => exact iff_of_true rfl rfl
  | error why =>
    cases why with
    | directoryImport asked url =>
      rw [again?_directoryImport]
      exact iff_of_false (Option.some_ne_none _) (Option.some_ne_none url)
    | moduleNotFound asked url =>
      cases url with
      | none => exact iff_of_true rfl rfl
      | some url =>
        rw [again?_moduleNotFound]
        exact iff_of_false (Option.some_ne_none _) (Option.some_ne_none url)
    | _ => exact iff_of_true rfl rfl

/-! ## The three conversations -/

variable {fs : FileSystem} (host : ResolveHost σ) (state : σ) {specifier : Text}
  {context : ResolveContext}

/-- A specifier is intercepted when there is a format for it. -/
theorem syntheticFormat?_eq_none_iff {c : ExtensionClass} :
    syntheticFormat? c = none ↔ c.isIntercepted = false := by
  cases c <;> decide

/-- **An intercepted specifier is answered from its text and its context.** -/
theorem value_resolve_of_format {format : ModuleFormat}
    (h : syntheticFormat? (Specifier.classify specifier) = some format) :
    (resolve fs host state specifier context).value
      = (state, (interceptedUrl specifier context).map
          fun url => { url, format := some format, shortCircuit := true }) := by
  unfold resolve
  rw [h]
  cases interceptedUrl specifier context <;> rfl

/-- An answer from which nothing can be tried is passed on. -/
theorem value_resolve_of_again_none
    (h : syntheticFormat? (Specifier.classify specifier) = none)
    (hagain : again? fs specifier (host.resolve state specifier context).2 = none) :
    (resolve fs host state specifier context).value
      = ((host.resolve state specifier context).1,
          (host.resolve state specifier context).2.mapError .resolve) := by
  have hnone := Option.map_eq_none_iff.mp hagain
  unfold resolve
  rw [h]
  simp only [hnone, Logged.value_silent]

/-- After a failure that carries a URL the answer to the second question is
passed on. -/
theorem value_resolve_of_again_some
    (h : syntheticFormat? (Specifier.classify specifier) = none) {again : Text}
    (hagain : again? fs specifier (host.resolve state specifier context).2 = some again) :
    (resolve fs host state specifier context).value
      = ((host.resolve (host.resolve state specifier context).1 again context).1,
          (host.resolve (host.resolve state specifier context).1 again context).2.mapError
            .resolve) := by
  obtain ⟨⟨_, note⟩, hsome, rfl⟩ := Option.map_eq_some_iff.mp hagain
  unfold resolve
  rw [h]
  simp only [hsome]

/-- **What the hook asks of its host**, for every host with a state of its own.

An intercepted specifier leaves the host alone. Otherwise the first question
is the import as it came. If its answer carries no URL of a failure, it is the
only question and its answer the answer of the hook; if it does, there is one
more question, in the same context and for the one specifier that
`SecondQuestion` tells, and the hook's answer is the answer to that. -/
theorem resolve_conversation (fs : FileSystem) (host : ResolveHost σ) (state : σ)
    (specifier : Text) (context : ResolveContext) :
    let first := host.resolve state specifier context
    let run := (resolve fs host.recording (state, []) specifier context).value
    ((Specifier.classify specifier).isIntercepted = true → run.1 = (state, []))
      ∧ ((Specifier.classify specifier).isIntercepted = false → failedUrl? first.2 = none →
          run = ((first.1, [⟨specifier, context⟩]), first.2.mapError .resolve))
      ∧ ((Specifier.classify specifier).isIntercepted = false →
          ∀ why url, first.2 = .error why → failedUrl? first.2 = some url →
          ∃ again, SecondQuestion fs specifier why again
            ∧ (∀ other, SecondQuestion fs specifier why other → other = again)
            ∧ run = (((host.resolve first.1 again context).1,
                [⟨again, context⟩, ⟨specifier, context⟩]),
              (host.resolve first.1 again context).2.mapError .resolve)) := by
  intro first run
  refine ⟨fun hclass => ?_, fun hclass hurl => ?_, fun hclass why url hwhy hurl => ?_⟩
  · cases hformat : syntheticFormat? (Specifier.classify specifier) with
    | none => simp [syntheticFormat?_eq_none_iff.mp hformat] at hclass
    | some format =>
      show (resolve fs host.recording (state, []) specifier context).value.1 = _
      rw [value_resolve_of_format host.recording (state, []) hformat]
  · exact value_resolve_of_again_none host.recording (state, [])
      (syntheticFormat?_eq_none_iff.mpr hclass) (again?_eq_none_iff.mpr hurl)
  · have hsome : (again? fs specifier (.error why)).isSome := by
      rw [Option.isSome_iff_ne_none, Ne, again?_eq_none_iff, ← hwhy, hurl]
      exact Option.some_ne_none url
    obtain ⟨again, hagain⟩ := Option.isSome_iff_exists.mp hsome
    refine ⟨again, secondQuestion_iff.mpr hagain, fun other hother => ?_, ?_⟩
    · exact Option.some.inj ((secondQuestion_iff.mp hother).symm.trans hagain)
    · exact value_resolve_of_again_some host.recording (state, [])
        (syntheticFormat?_eq_none_iff.mpr hclass) (by
          show again? fs specifier first.2 = _
          rw [hwhy]
          exact hagain)

end ModuleHooks.Import
