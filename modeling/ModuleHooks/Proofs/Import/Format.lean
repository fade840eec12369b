import ModuleHooks.Proofs.Import.Package
import ModuleHooks.Proofs.Url.NamedPath
/-!
# The format of an import and the file it leads to

The format says what will be made of a file, but it is attached before any file
is known: the specifier alone decides whether it is that of a stylesheet or of
an asset. Between the two texts stand the reader of URLs, which takes queries,
fragments and blanks off a specifier and decodes the rest, the manifest of a
package, and the second attempt.

So the format agrees with the specifier always, and with the file exactly when
the path that was named has the class of the specifier (`resolve_format`).
`namedPath` is that path. A specifier that shows its path has its class;
`not_forall_formatFollows` is what happens without that.
-/

namespace ModuleHooks.Import

open StrictHost
open Specifier (classify)

/-! ## Formats that follow a class -/

/-- **The format follows a class**: it is that of stylesheets for stylesheets,
that of assets for assets, and one of the host for everything else. -/
def FormatFollows (format : Option ModuleFormat) (c : ExtensionClass) : Prop :=
  (format = some .stylesheet ↔ c = .stylesheet) ∧ (format = some .asset ↔ c = .genericAsset)
    ∧ (c = .notIntercepted → ∃ f, format = some f ∧ f.isSynthetic = false)

/-- The formats that are attached here follow their class. -/
theorem formatFollows_of_syntheticFormat? {c : ExtensionClass} {format : ModuleFormat}
    (h : syntheticFormat? c = some format) : FormatFollows (some format) c := by
  cases c with
  | stylesheet =>
    cases h
    exact ⟨iff_of_true rfl rfl, iff_of_false (by decide) (by decide), fun h => by cases h⟩
  | genericAsset =>
    cases h
    exact ⟨iff_of_false (by decide) (by decide), iff_of_true rfl rfl, fun h => by cases h⟩
  | notIntercepted => cases h

/-- A format of the host follows the class that is left to it. -/
theorem formatFollows_of_isSynthetic {format : ModuleFormat} (h : format.isSynthetic = false) :
    FormatFollows (some format) .notIntercepted := by
  refine ⟨iff_of_false ?_ (by decide), iff_of_false ?_ (by decide), fun _ => ⟨format, rfl, h⟩⟩
  · rintro ⟨⟩
    cases h
  · rintro ⟨⟩
    cases h

/-- **A format follows one class only.** -/
theorem FormatFollows.iff_eq {format : Option ModuleFormat} {c d : ExtensionClass}
    (h : FormatFollows format c) : FormatFollows format d ↔ d = c := by
  refine ⟨fun h' => ?_, fun heq => heq ▸ h⟩
  cases c with
  | stylesheet => exact h'.1.mp (h.1.mpr rfl)
  | genericAsset => exact h'.2.1.mp (h.2.1.mpr rfl)
  | notIntercepted =>
    cases d with
    | stylesheet => exact (h.1.mp (h'.1.mpr rfl)).symm
    | genericAsset => exact (h.2.1.mp (h'.2.1.mpr rfl)).symm
    | notIntercepted => rfl

end ModuleHooks.Import

namespace ModuleHooks.StrictHost

open Specifier (classify)

variable {fs : FileSystem} {base : Url} {q : Text} {context : ResolveContext} {m : ResolvedModule}
  {p : Path}

/-! ## What the strict host makes of a specifier -/

/-- **A file is a script of one of the two kinds, or data.** -/
theorem detectFormat_cases (fs : FileSystem) (p : Path) :
    detectFormat fs p = .module ∨ detectFormat fs p = .commonJs ∨ detectFormat fs p = .json := by
  have hpackage : ∀ dirs, packageFormat fs dirs = .module ∨ packageFormat fs dirs = .commonJs := by
    intro dirs
    unfold packageFormat
    split
    · split_ifs
      · exact Or.inl rfl
      · exact Or.inr rfl
    · exact Or.inr rfl
  unfold detectFormat
  dsimp only
  split_ifs
  · exact Or.inl rfl
  · exact Or.inr (Or.inl rfl)
  · exact Or.inr (Or.inr rfl)
  · exact (hpackage _).imp_right Or.inl

/-- The formats of the strict host are none of those attached by the hook. -/
theorem isSynthetic_detectFormat (fs : FileSystem) (p : Path) :
    (detectFormat fs p).isSynthetic = false := by
  rcases detectFormat_cases fs p with h | h | h <;> rw [h] <;> rfl

/-- The target of a package specifier, as it comes back from its URL, or the
specifier itself where there is no such package. -/
def packagePath (fs : FileSystem) (parent : Option Url) (q : Text) : Path :=
  let target? := (PackageSpecifier.parse q).bind fun package =>
    (nearestPackage fs parent package.name).map fun dir => packageTarget fs dir package.subpath
  target?.elim q Url.settle

/-- **The path that a specifier names** to the strict host: that of a reference
for relative specifiers, that of a URL of a file, and the target in the nearest
package for everything else. -/
def namedPath (fs : FileSystem) (base : Url) (q : Text) : Path :=
  if isRelative q then Url.namedPath base q
  else if (Url.parse q).toOption.any fun url => Url.isFileScheme url.scheme then
    Percent.decode (Url.writtenPath q)
  else packagePath fs (some base) q

theorem formatFollows_of_resolveUrl {url : Url} (h : resolveUrl fs q url = .ok m) :
    Import.FormatFollows m.format .notIntercepted := by
  obtain ⟨path, -, -, -, -, rfl⟩ := eq_of_resolveUrl h
  exact Import.formatFollows_of_isSynthetic (isSynthetic_detectFormat fs path)

/-- A package that is answered with leads to its target. -/
theorem eq_of_resolvePackage {parent : Option Url} (h : resolvePackage fs q parent = .ok m)
    (hp : m.url.toFilePath? = some p) :
    Import.FormatFollows m.format .notIntercepted ∧ p = packagePath fs parent q := by
  obtain ⟨package, dir, url, hparse, hnear, -, hpath, hanswer⟩ :=
    exists_nearestPackage_of_resolvePackage h
  refine ⟨formatFollows_of_resolveUrl hanswer, ?_⟩
  obtain ⟨path, -, -, -, -, rfl⟩ := eq_of_resolveUrl hanswer
  rw [packagePath, hparse, Option.bind_some, hnear]
  exact Option.some_inj.mp (hp.symm.trans hpath)

/-- A relative specifier that is answered with leads to the path it names. -/
theorem classify_of_resolveRelative (hbase : base.IsFileUrl)
    (h : resolveRelative fs q (some base) = .ok m) (hurl : m.url.scheme = "file".toList)
    (hp : m.url.toFilePath? = some p) :
    Import.FormatFollows m.format .notIntercepted
      ∧ classify p = classify (Url.namedPath base q) := by
  unfold resolveRelative at h
  cases hjoin : base.join q with
  | error why =>
    simp only [hjoin] at h
    cases h
  | ok url =>
    simp only [hjoin] at h
    refine ⟨formatFollows_of_resolveUrl h, ?_⟩
    obtain ⟨path, -, -, -, -, rfl⟩ := eq_of_resolveUrl h
    exact Url.classify_join hbase hjoin hurl hp

/-- **What the strict host answers with** has the class of the path that was
named, under a format that the hook never attaches. -/
theorem classify_of_resolve (hbase : base.IsFileUrl) (hparent : context.parentUrl = some base)
    (h : resolve fs q context = .ok m) (hurl : m.url.scheme = "file".toList)
    (hp : m.url.toFilePath? = some p) :
    Import.FormatFollows m.format .notIntercepted
      ∧ classify p = classify (namedPath fs base q) := by
  have hpackage : resolvePackage fs q (some base) = .ok m →
      Import.FormatFollows m.format .notIntercepted
        ∧ classify p = classify (packagePath fs (some base) q) := fun h =>
    (eq_of_resolvePackage h hp).imp_right (congrArg classify)
  unfold resolve at h
  rw [hparent] at h
  unfold namedPath
  cases hlookup : Builtin.lookup q with
  | found name =>
    rw [hlookup] at h
    cases h
    have hnode : "node".toList = "file".toList := hurl
    exact absurd hnode (by decide)
  | unknown =>
    rw [hlookup] at h
    cases h
  | unrelated =>
    -- From here the host and `namedPath` ask the same things in the same order.
    rw [hlookup] at h
    dsimp only at h
    by_cases hrelative : isRelative q = true
    · rw [if_pos hrelative] at h ⊢
      exact classify_of_resolveRelative hbase h hurl hp
    rw [if_neg hrelative] at h ⊢
    cases hparse : Url.parse q with
    | error why =>
      rw [hparse] at h
      exact hpackage h
    | ok url =>
      rw [hparse] at h
      dsimp only at h
      have hany : ((Except.ok url : Except UrlError Url).toOption.any fun url =>
          Url.isFileScheme url.scheme) = Url.isFileScheme url.scheme := rfl
      rw [hany]
      by_cases hfile : Url.isFileScheme url.scheme = true
      · rw [if_pos hfile] at h ⊢
        refine ⟨formatFollows_of_resolveUrl h, ?_⟩
        obtain ⟨path, -, -, -, -, rfl⟩ := eq_of_resolveUrl h
        exact Url.classify_parse hparse hurl hp
      · rw [if_neg hfile] at h ⊢
        exact hpackage h

/-! ## Specifiers that show their path -/

/-- **A specifier that shows its path** to the strict host. A path inside a
package is taken as it is written, so only its last segment matters. -/
inductive ShowsPath : Text → Prop where
  /-- A relative specifier that is a clear reference. -/
  | relative {q : Text} (relative : isRelative q = true) (clear : Url.IsClear q) : ShowsPath q
  /-- The clear URL of a file. -/
  | file {r : Text} (clear : Url.IsClear ("file:///".toList ++ r)) :
      ShowsPath ("file:///".toList ++ r)
  /-- A path inside a package with a segment of its own at the end. -/
  | package {q name sub : Text} (relative : isRelative q = false)
      (colons : Url.ColonsBehindSlash q) (parse : PackageSpecifier.parse q = some ⟨name, some sub⟩)
      (last : Path.isIdle (Text.lastPiece (· == '/') sub) = false) : ShowsPath q

/-- A path inside a package has the class of its specifier. -/
theorem classify_settle_join {name sub : Text}
    (hparse : PackageSpecifier.parse q = some ⟨name, some sub⟩)
    (hlast : Path.isIdle (Text.lastPiece (· == '/') sub) = false) (dir : Path) :
    classify (Url.settle (Path.join dir sub)) = classify q := by
  obtain ⟨hnone, -⟩ | ⟨sub', -, hsub, rfl⟩ := PackageSpecifier.subpath_cases_of_parse hparse
  · cases hnone
  cases hsub
  have hslash : '/' ∉ Text.lastPiece (· == '/') sub := Text.notMem_lastPiece '/' sub
  obtain ⟨front, hfront⟩ := Path.exists_steps_join dir sub
  have hsteps := hfront [] List.not_mem_nil
  rw [List.append_nil, List.append_nil, Path.steps_of_isStep ⟨hlast, hslash⟩] at hsteps
  have hend : (Path.steps (Path.join dir sub)).getLast? = some (Text.lastPiece (· == '/') sub) := by
    rw [hsteps, List.getLast?_concat]
  rw [Url.classify_settle hend, Specifier.classify_append_cons rfl]
  rcases Text.eq_lastPiece_or (· == '/') sub with hsub | ⟨s, c, hc, hsub⟩
  · rw [← hsub]
  · obtain rfl := beq_iff_eq.mp hc
    generalize Text.lastPiece (· == '/') sub = last at hsub
    rw [hsub, Specifier.classify_append_cons rfl]

/-- **A specifier that shows its path** has the class of the path it names. -/
theorem classify_namedPath (h : ShowsPath q) (fs : FileSystem) (base : Url) :
    classify (namedPath fs base q) = classify q := by
  unfold namedPath
  cases h with
  | relative hrelative hclear =>
    have hne : q ≠ [] := by
      rintro rfl
      exact absurd hrelative (by decide)
    rw [if_pos hrelative, Url.classify_namedPath hclear hne]
  | @file r hclear =>
    have hrelative : isRelative ("file:///".toList ++ r) = false := rfl
    have hparse : ((Url.parse ("file:///".toList ++ r)).toOption.any fun url =>
        Url.isFileScheme url.scheme) = true := by
      rw [Url.parse, Url.read, hclear.clean_eq]
      rfl
    rw [hrelative, if_neg Bool.false_ne_true, if_pos hparse, Url.classify_writtenPath hclear]
  | @package _ name sub hrelative hcolons hparse hlast =>
    have hurl : ((Url.parse q).toOption.any fun url => Url.isFileScheme url.scheme) = false := by
      rw [Url.parse_of_colonsBehindSlash hcolons]
      rfl
    rw [hrelative, hurl, if_neg Bool.false_ne_true, if_neg Bool.false_ne_true]
    unfold packagePath
    rw [hparse, Option.bind_some]
    cases hnear : nearestPackage fs (some base) name with
    | none => rfl
    | some dir => exact classify_settle_join hparse hlast dir

end ModuleHooks.StrictHost

namespace ModuleHooks.Import

open Specifier (classify)

/-! ## The last question -/

/-- **The last question** is the specifier itself, or asks for a script. -/
theorem lastQuestion_cases (fs : FileSystem) (s : Text) (context : ResolveContext) :
    lastQuestion fs s context = s ∨ ∃ front, lastQuestion fs s context = front ++ ".js".toList := by
  unfold lastQuestion
  cases hanswer : StrictHost.resolve fs s context with
  | ok m => exact Or.inl rfl
  | error why =>
    cases hagain : again? fs s (.error why) with
    | none => exact Or.inl rfl
    | some q =>
      show q = s ∨ ∃ front, q = front ++ ".js".toList
      cases secondQuestion_iff.mpr hagain with
      | @entry _ _ dir before after file hleads hcandidates _ _ =>
        have hsplit : directoryCandidates dir = before ++ file :: after := hcandidates
        have hmem : file ∈ directoryCandidates dir :=
          hsplit ▸ List.mem_append_right before List.mem_cons_self
        obtain ⟨front, -, rfl⟩ := exists_of_mem_candidates hmem
        exact Or.inr ⟨Text.trimEnd (· == '/') s ++ '/' :: front, by
          rw [List.append_assoc, List.cons_append]⟩
      | bare _ => exact Or.inl rfl
      | script _ _ => exact Or.inr ⟨s, rfl⟩
      | missing _ => exact Or.inl rfl

/-- **A specifier that is left to the host stays so** in the second question. -/
theorem classify_lastQuestion {fs : FileSystem} {s : Text} {context : ResolveContext}
    (h : classify s = .notIntercepted) :
    classify (lastQuestion fs s context) = .notIntercepted := by
  rcases lastQuestion_cases fs s context with heq | ⟨front, heq⟩
  · rw [heq, h]
  · rw [heq, Specifier.classify_append_js]

/-! ## The format and the file -/

/-- **The path that an import names.** An intercepted specifier is a reference,
whatever it would be to the host; any other names the path of the last
question. -/
def namedPath (fs : FileSystem) (base : Url) (s : Text) (context : ResolveContext) : Path :=
  if (classify s).isIntercepted then Url.namedPath base s
  else StrictHost.namedPath fs base (lastQuestion fs s context)

section Answers

variable {fs : FileSystem} {base : Url} {s : Text} {context : ResolveContext} {m : ResolvedModule}
  {p : Path} (hbase : base.IsFileUrl) (hparent : context.parentUrl = some base)
  (h : (resolve fs (StrictHost.resolver fs) () s context).value.2 = .ok m)
  (hurl : m.url.scheme = "file".toList) (hp : m.url.toFilePath? = some p)

include hbase hparent h hurl hp

/-- An intercepted specifier is answered as a reference. -/
theorem formatFollows_of_isIntercepted (hclass : (classify s).isIntercepted = true) :
    FormatFollows m.format (classify s) ∧ classify p = classify (Url.namedPath base s) := by
  obtain ⟨format, hformat⟩ : ∃ format, syntheticFormat? (classify s) = some format := by
    refine Option.ne_none_iff_exists'.mp (fun hnone => ?_)
    rw [syntheticFormat?_eq_none_iff.mp hnone] at hclass
    cases hclass
  rw [value_resolve_of_format (StrictHost.resolver fs) () hformat, interceptedUrl, hparent] at h
  dsimp only at h
  cases hjoin : base.join s with
  | error why =>
    rw [hjoin] at h
    cases h
  | ok url =>
    rw [hjoin] at h
    cases h
    exact ⟨formatFollows_of_syntheticFormat? hformat, Url.classify_join hbase hjoin hurl hp⟩

/-- Any other specifier is answered as the last question. -/
theorem formatFollows_of_lastQuestion (hclass : (classify s).isIntercepted = false) :
    FormatFollows m.format (classify s)
      ∧ classify p = classify (StrictHost.namedPath fs base (lastQuestion fs s context)) := by
  have hanswer := resolve_lastQuestion_of_ok (syntheticFormat?_eq_none_iff.mpr hclass) h
  rw [Specifier.isIntercepted_eq_false_iff.mp hclass]
  exact StrictHost.classify_of_resolve hbase hparent hanswer hurl hp

end Answers

/-- **The format of an import agrees with its specifier**, and with the file
that will be loaded exactly when the path that was named has the class of the
specifier.

The class of the file path is that of the named path, whatever became of it on
the way. An intercepted specifier that shows its path is therefore answered
with the format of the file, and so is any other if the last question shows its
path. -/
theorem resolve_format {fs : FileSystem} {base : Url} {s : Text} {context : ResolveContext}
    {m : ResolvedModule} {p : Path} (hbase : base.IsFileUrl)
    (hparent : context.parentUrl = some base)
    (h : (resolve fs (StrictHost.resolver fs) () s context).value.2 = .ok m)
    (hurl : m.url.scheme = "file".toList) (hp : m.url.toFilePath? = some p) :
    FormatFollows m.format (classify s)
      ∧ classify p = classify (namedPath fs base s context)
      ∧ (FormatFollows m.format (classify p)
        ↔ classify (namedPath fs base s context) = classify s)
      ∧ ((classify s).isIntercepted = true → Url.IsClear s →
        FormatFollows m.format (classify p))
      ∧ ((classify s).isIntercepted = false →
        StrictHost.ShowsPath (lastQuestion fs s context) →
        FormatFollows m.format (classify p)) := by
  -- The format follows one class only, so it agrees with the file when the classes do.
  obtain ⟨hfollows, hpath⟩ : FormatFollows m.format (classify s)
      ∧ classify p = classify (namedPath fs base s context) := by
    unfold namedPath
    cases hclass : (classify s).isIntercepted with
    | true => exact formatFollows_of_isIntercepted hbase hparent h hurl hp hclass
    | false => exact formatFollows_of_lastQuestion hbase hparent h hurl hp hclass
  have hexact : FormatFollows m.format (classify p)
      ↔ classify (namedPath fs base s context) = classify s := hpath ▸ hfollows.iff_eq
  refine ⟨hfollows, hpath, hexact, fun hclass hclear => hexact.mpr ?_,
    fun hclass hshows => hexact.mpr ?_⟩
  · have hne : s ≠ [] := by
      rintro rfl
      exact absurd hclass (by decide)
    rw [namedPath, if_pos hclass, Url.classify_namedPath hclear hne]
  · have hnone := Specifier.isIntercepted_eq_false_iff.mp hclass
    rw [namedPath, hclass, if_neg Bool.false_ne_true, StrictHost.classify_namedPath hshows,
      classify_lastQuestion hnone, hnone]

/-- From `/app/main.js`, the directory `./lib` with an entry file. -/
theorem resolve_format_directory :
    let fs : FileSystem := {
      nodes := [(["app".toList], .directory), (["app".toList, "lib".toList], .directory),
        (["app".toList, "lib".toList, "index.js".toList], .file [])] }
    let base := Url.fileUrl (.domain []) ["app".toList, "main.js".toList]
    let context : ResolveContext := { parentUrl := some base }
    let m : ResolvedModule := {
      url := Url.fileUrl (.domain []) ["app".toList, "lib".toList, "index.js".toList]
      format := some .commonJs }
    (resolve fs (StrictHost.resolver fs) () "./lib" context).value.2 = .ok m
      ∧ m.url.toFilePath? = some "/app/lib/index.js".toList
      ∧ StrictHost.ShowsPath (lastQuestion fs "./lib" context)
      ∧ FormatFollows m.format (classify "/app/lib/index.js") := by
  intro fs base context m
  have hanswer : (resolve fs (StrictHost.resolver fs) () "./lib" context).value.2 = .ok m := by
    decide +kernel
  have hpath : m.url.toFilePath? = some "/app/lib/index.js".toList := by decide +kernel
  have hshows : StrictHost.ShowsPath (lastQuestion fs "./lib" context) := by
    have hquestion : lastQuestion fs "./lib" context = "./lib/index.js".toList := by decide +kernel
    rw [hquestion]
    refine .relative (by decide) ⟨by decide, by decide, Or.inl ⟨fun before after heq => ?_, rfl⟩⟩
    have hcolon : ':' ∈ "./lib/index.js".toList :=
      heq ▸ List.mem_append_right before List.mem_cons_self
    exact absurd hcolon (by decide)
  have hbase : base.IsFileUrl := ⟨rfl, _, _, rfl⟩
  obtain ⟨-, -, -, -, hformat⟩ := resolve_format hbase rfl hanswer rfl hpath
  exact ⟨hanswer, hpath, hshows, hformat (by decide) hshows⟩

/-- **The format does not follow the file alone.** A script behind a query that
ends like a stylesheet is answered as a stylesheet. -/
theorem not_forall_formatFollows :
    ¬∀ (fs : FileSystem) (base : Url) (s : Text) (context : ResolveContext) (m : ResolvedModule)
      (p : Path), base.IsFileUrl → context.parentUrl = some base →
      (resolve fs (StrictHost.resolver fs) () s context).value.2 = .ok m →
      m.url.scheme = "file".toList → m.url.toFilePath? = some p →
      FormatFollows m.format (classify p) := by
  intro h
  let fs : FileSystem := {
    nodes := [(["app".toList], .directory), (["app".toList, "a.js".toList], .file [])] }
  let base := Url.fileUrl (.domain []) ["app".toList, "main.js".toList]
  let context : ResolveContext := { parentUrl := some base }
  let m : ResolvedModule := {
    url := { Url.fileUrl (.domain []) ["app".toList, "a.js".toList] with query := some "v=1.css" }
    format := some .stylesheet
    shortCircuit := true }
  have hanswer :
      (resolve fs (StrictHost.resolver fs) () "./a.js?v=1.css" context).value.2 = .ok m := by
    decide +kernel
  have hpath : m.url.toFilePath? = some "/app/a.js".toList := by decide +kernel
  have hformat := h fs base "./a.js?v=1.css" context m _ ⟨rfl, _, _, rfl⟩ rfl hanswer rfl hpath
  exact absurd (hformat.1.mp rfl) (by decide)

end ModuleHooks.Import
