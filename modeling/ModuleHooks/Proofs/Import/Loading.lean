import ModuleHooks.Proofs.Import.Canonical
import ModuleHooks.Proofs.Import.Format
import ModuleHooks.Proofs.Import.Isolation
/-!
# What is resolved can be loaded

Resolving and loading find the file behind a URL each on its own, and the format is told twice,
once to attach it and once more if nobody attached any. Nothing is carried over but the URL, so
the two sides agree because they ask it the same question: what is at its path is a file, which is
what both of them read.

There is one question that they do not both ask. Loading takes every URL of the scheme `node:` for
a module of the host, while resolving never looks at the scheme of a URL that was read relative to
an importer, which is the importer's. So with an importer of another scheme the answer need not be
the URL of a file (`scheme_of_resolve_iff`), and with one of the scheme `node:` it is not loaded as
it was resolved (`resolve_load_agree`). Seen from a file, what is loaded without a source is a module
of the host (`source_eq_none_iff`).
-/

namespace ModuleHooks

/-! ## The scheme of a reference -/

namespace Url

variable {base url : Url} {t : Text}

/-- **A relative specifier has the scheme of its importer.** -/
theorem scheme_of_join_of_isRelative (ht : StrictHost.isRelative t = true)
    (h : base.join t = .ok url) : url.scheme = base.scheme := by
  have hfirst : ∃ c r, t = c :: r ∧ (c = '.' ∨ c = '/') := by
    obtain ⟨lead, hlead, hstart⟩ := List.any_eq_true.mp ht
    obtain ⟨r, rfl⟩ := List.isPrefixOf_iff_prefix.mp hstart
    simp only [List.mem_cons, List.not_mem_nil, or_false] at hlead
    rcases hlead with rfl | rfl | rfl
    · exact ⟨_, _, rfl, Or.inl rfl⟩
    · exact ⟨_, _, rfl, Or.inl rfl⟩
    · exact ⟨_, _, rfl, Or.inr rfl⟩
  obtain ⟨c, r, rfl, hc⟩ := hfirst
  unfold join read at h
  dsimp only at h
  rw [splitScheme?_clean_cons r hc] at h
  exact scheme_of_readWithoutScheme h

end Url

/-! ## Modules of the host -/

namespace Builtin

/-- The spellings of the modules of the host. -/
def spellings : List Text := modules ++ (modules ++ schemeOnly).map ("node:".toList ++ ·)

theorem mem_spellings {specifier : Text} (h : isBuiltin specifier = true) :
    specifier ∈ spellings := by
  unfold isBuiltin lookup at h
  cases hscheme : Text.stripStart? "node:" specifier with
  | none =>
    rw [hscheme] at h
    by_cases hmem : modules.contains specifier = true
    · exact List.mem_append_left _ (List.contains_iff_mem.mp hmem)
    · simp only [if_neg hmem] at h
      cases h
  | some name =>
    rw [hscheme] at h
    by_cases hmem : (modules.contains name || schemeOnly.contains name) = true
    · rw [Text.eq_of_stripStart? hscheme]
      rw [Bool.or_eq_true, List.contains_iff_mem, List.contains_iff_mem] at hmem
      exact List.mem_append_right _ (List.mem_map_of_mem (List.mem_append.mpr hmem))
    · simp only [if_neg hmem] at h
      cases h

/-- **No module of the host is a script.** -/
theorem isBuiltin_append_js (front : Text) :
    isBuiltin (front ++ ".js".toList) = false := by
  have hspellings : ∀ s ∈ spellings, ¬".js".toList <:+ s := by decide +kernel
  exact Bool.eq_false_iff.mpr fun h =>
    hspellings _ (mem_spellings h) (List.suffix_append front ".js".toList)

end Builtin

/-! ## What is loaded -/

namespace StrictHost

variable {fs : FileSystem} {specifier : Text} {context : ResolveContext} {m : ResolvedModule}

/-- **What comes of loading a file** with some bytes under a format: its text under that format,
or the system's refusal. -/
def loadedAs (content : List UInt8) (format : ModuleFormat) : Except LoaderError LoadedModule :=
  match Text.decodeUtf8? content with
  | some source => .ok { source := some source, format, shortCircuit := true }
  | none => .error (.fileSystem .malformedText)

/-- What comes of loading a module of the host. -/
def loadedBuiltin : LoadedModule := { source := none, format := .builtin, shortCircuit := true }

theorem loadedAs_ne_loadedBuiltin (content : List UInt8) (format : ModuleFormat) :
    loadedAs content format ≠ .ok loadedBuiltin := by
  unfold loadedAs loadedBuiltin
  intro h
  split at h <;> cases h

/-- A URL of the scheme of the host's modules is taken for one of them. -/
theorem load_of_node {url : Url} (h : url.scheme = "node".toList) (context : LoadContext) :
    load fs url context = .ok loadedBuiltin := by
  rw [load, h]
  rfl

/-- **A file is loaded under the format that is attached**, else under its own. -/
theorem load_of_file {url : Url} {path : Path} {content : List UInt8}
    (hscheme : url.scheme ≠ "node".toList) (hpath : url.toFilePath? = some path)
    (hnode : fs.node? path = some (.file content)) {context : LoadContext}
    (hformat : context.format ≠ some .builtin) :
    load fs url context = loadedAs content (context.format.getD (detectFormat fs path)) := by
  rw [load, decide_eq_false hscheme, decide_eq_false hformat, Bool.or_false,
    if_neg Bool.false_ne_true]
  simp only [hpath, FileSystem.readText_of_node? hnode]
  unfold loadedAs
  cases Text.decodeUtf8? content <;> rfl

/-! ## What is answered with -/

/-- **A module of the host** is told by its specifier. -/
theorem exists_of_resolve_of_isBuiltin (h : resolve fs specifier context = .ok m)
    (hbuiltin : Builtin.isBuiltin specifier = true) :
    m.url.scheme = "node".toList ∧ m.format = some .builtin := by
  unfold Builtin.isBuiltin at hbuiltin
  rcases exists_of_resolve h with ⟨name, -, rfl⟩ | ⟨hlookup, -⟩
  · exact ⟨rfl, rfl⟩
  · rw [hlookup] at hbuiltin
    cases hbuiltin

/-- **Anything else is a file**, with the format that its path has. -/
theorem exists_file_of_resolve (h : resolve fs specifier context = .ok m)
    (hbuiltin : Builtin.isBuiltin specifier = false) :
    ∃ path content, m.url.toFilePath? = some path ∧ fs.node? path = some (.file content)
      ∧ m.format = some (detectFormat fs path) := by
  unfold Builtin.isBuiltin at hbuiltin
  rcases exists_of_resolve h with ⟨name, hlookup, -⟩ | ⟨-, url, -, hanswer⟩
  · rw [hlookup] at hbuiltin
    cases hbuiltin
  · obtain ⟨path, node, hpath, hnode, hne, rfl⟩ := eq_of_resolveUrl hanswer
    cases node with
    | file content => exact ⟨path, content, hpath, hnode, rfl⟩
    | directory => exact absurd rfl hne
    | link target =>
      exact absurd hnode (FileSystem.node?_ne_link (Url.isAbsolute_of_toFilePath? hpath) target)

/-- **The answer is the URL of a file** exactly if the specifier is not relative to an importer of
another scheme. -/
theorem scheme_of_resolve_iff (h : resolve fs specifier context = .ok m)
    (hbuiltin : Builtin.isBuiltin specifier = false) :
    m.url.scheme = "file".toList ↔ (isRelative specifier = true → ∀ base,
      context.parentUrl = some base → base.scheme = "file".toList) := by
  unfold Builtin.isBuiltin at hbuiltin
  rcases exists_of_resolve h with ⟨name, hlookup, -⟩ | ⟨hlookup, url, hleads, hanswer⟩
  · rw [hlookup] at hbuiltin
    cases hbuiltin
  obtain ⟨_, _, -, -, -, rfl⟩ := eq_of_resolveUrl hanswer
  by_cases hrelative : isRelative specifier = true
  · cases hparent : context.parentUrl with
    | none =>
      rw [hparent] at hleads
      refine iff_of_true ?_ (fun _ base hbase => by cases hbase)
      cases hleads with
      | reference _ hbase _ => cases hbase
      | absolute _ hscheme => exact hscheme
      | path hurl => exact (Url.isFileForm_of_ofFilePath? hurl).scheme_eq
    | some base =>
      -- Nothing but the reference to the importer is tried for a relative specifier.
      unfold resolve at h
      rw [hlookup] at h
      dsimp only at h
      rw [if_pos hrelative, hparent] at h
      unfold resolveRelative at h
      dsimp only at h
      cases hjoin : base.join specifier with
      | error why =>
        rw [hjoin] at h
        cases h
      | ok url' =>
        rw [hjoin] at h
        obtain rfl := (resolveUrl_eq_ok_iff hanswer _ _).mp h
        have hscheme := Url.scheme_of_join_of_isRelative hrelative hjoin
        refine ⟨fun hfile _ base' hbase' => ?_, fun hfile => ?_⟩
        · rw [← Option.some.inj hbase', ← hscheme]
          exact hfile
        · exact hscheme.trans (hfile hrelative base rfl)
  · exact iff_of_true (hleads.scheme_eq (Bool.eq_false_of_not_eq_true hrelative))
      (fun h => absurd h hrelative)

end StrictHost

namespace Import

open StrictHost (isRelative loadedAs loadedBuiltin)
open Specifier (classify)

variable {fs : FileSystem} {specifier : Text} {context : ResolveContext} {m : ResolvedModule}

/-- **The last question is about a module of the host** exactly if the specifier is. -/
theorem isBuiltin_lastQuestion (fs : FileSystem) (specifier : Text) (context : ResolveContext) :
    Builtin.isBuiltin (lastQuestion fs specifier context) = Builtin.isBuiltin specifier := by
  -- The first question about a module of the host is answered, so there is no other.
  have hfirst : Builtin.isBuiltin specifier = true →
      lastQuestion fs specifier context = specifier := by
    intro h
    unfold Builtin.isBuiltin at h
    unfold lastQuestion StrictHost.resolve
    split at h
    · next name hlookup =>
      rw [hlookup]
      rfl
    · cases h
  cases h : Builtin.isBuiltin specifier with
  | true => rw [hfirst h, h]
  | false =>
    rcases lastQuestion_cases fs specifier context with heq | ⟨front, heq⟩
    · rw [heq, h]
    · rw [heq, Builtin.isBuiltin_append_js]

/-! ## Resolving and loading -/

/-- The hook leaves the load to the host, whether a format of the host is attached or none. -/
theorem load_eq_load {c : Config} {draws : Sass.Draws} {url : Url} {context : LoadContext}
    (h : ∀ f ∈ context.format, f.isSynthetic = false) :
    load c draws fs (StrictHost.loader fs) () url context
      = .silent ((), StrictHost.load fs url context) :=
  load_of_isSynthetic (StrictHost.loader fs) () h

/-- **What is resolved is loaded under the same format**, unless its URL is taken for that of a
module of the host.

Let the host answer for a specifier that is left to it, in front of the strict host. The format of
the answer is that of the host's modules exactly if the specifier names one of them, and then there
is no source to load. Every other answer has the path of an existing file. Its URL has the scheme
of files exactly if the last question was not relative to an importer of another scheme. It is
loaded as the text of the file under the format of the answer, or refused because the file is no
text, in the same way whether this format is attached or none, exactly if the scheme is not that
of the host's modules. -/
theorem resolve_load_agree (c : Config) (draws : Sass.Draws)
    (hclass : (classify specifier).isIntercepted = false)
    (h : (resolve fs (StrictHost.resolver fs) () specifier context).value.2 = .ok m) :
    (m.format = some .builtin ↔ Builtin.isBuiltin specifier = true)
      ∧ (Builtin.isBuiltin specifier = true → ∀ conditions,
        load c draws fs (StrictHost.loader fs) () m.url { format := m.format, conditions }
          = .silent ((), .ok { source := none, format := .builtin, shortCircuit := true }))
      ∧ (Builtin.isBuiltin specifier = false → ∃ path content format,
        m.url.toFilePath? = some path ∧ fs.node? path = some (.file content)
        ∧ m.format = some format
        ∧ (m.url.scheme = "file".toList ↔
          (isRelative (lastQuestion fs specifier context) = true → ∀ base,
            context.parentUrl = some base → base.scheme = "file".toList))
        ∧ ((∀ attached conditions, attached = none ∨ attached = some format →
          load c draws fs (StrictHost.loader fs) () m.url { format := attached, conditions }
            = .silent ((), loadedAs content format)) ↔ m.url.scheme ≠ "node".toList)) := by
  have hanswer : StrictHost.resolve fs (lastQuestion fs specifier context) context = .ok m := by
    rw [value_resolve_lastQuestion (syntheticFormat?_eq_none_iff.mpr hclass)] at h
    cases hlast : StrictHost.resolve fs (lastQuestion fs specifier context) context with
    | error why =>
      rw [hlast] at h
      cases h
    | ok m' =>
      rw [hlast] at h
      cases h
      rfl
  have hsame := isBuiltin_lastQuestion fs specifier context
  cases hbuiltin : Builtin.isBuiltin specifier with
  | true =>
    obtain ⟨hscheme, hformat⟩ :=
      StrictHost.exists_of_resolve_of_isBuiltin hanswer (hsame.trans hbuiltin)
    refine ⟨iff_of_true hformat rfl, fun _ conditions => ?_,
      fun hfalse => absurd hfalse.symm Bool.false_ne_true⟩
    rw [load_eq_load, StrictHost.load_of_node hscheme]
    · rfl
    · rintro f hf
      cases hformat.symm.trans hf
      rfl
  | false =>
    obtain ⟨path, content, hpath, hnode, hformat⟩ :=
      StrictHost.exists_file_of_resolve hanswer (hsame.trans hbuiltin)
    have hne : StrictHost.detectFormat fs path ≠ .builtin := by
      rcases StrictHost.detectFormat_cases fs path with heq | heq | heq <;> rw [heq] <;> decide
    refine ⟨iff_of_false (fun heq => ?_) Bool.false_ne_true,
      fun htrue => absurd htrue Bool.false_ne_true, fun _ => ⟨path, content, _, hpath, hnode,
        hformat, StrictHost.scheme_of_resolve_iff hanswer (hsame.trans hbuiltin), ?_⟩⟩
    · exact hne (Option.some.inj (hformat.symm.trans heq))
    have hload : ∀ attached conditions,
        attached = none ∨ attached = some (StrictHost.detectFormat fs path) →
        load c draws fs (StrictHost.loader fs) () m.url { format := attached, conditions }
          = .silent ((), StrictHost.load fs m.url { format := attached, conditions }) := by
      rintro attached conditions (rfl | rfl)
      · exact load_eq_load fun f hf => by cases hf
      · refine load_eq_load fun f hf => ?_
        cases hf
        exact StrictHost.isSynthetic_detectFormat fs path
    constructor
    · intro hagree hscheme
      have hnone := hagree none [] (Or.inl rfl)
      rw [hload none [] (Or.inl rfl), StrictHost.load_of_node hscheme] at hnone
      exact StrictHost.loadedAs_ne_loadedBuiltin content _
        (congrArg (fun l => l.value.2) hnone).symm
    · intro hscheme attached conditions hattached
      rw [hload attached conditions hattached,
        StrictHost.load_of_file hscheme hpath hnode]
      · rcases hattached with rfl | rfl <;> rfl
      · rcases hattached with rfl | rfl
        · exact (Option.some_ne_none _).symm
        · exact fun heq => hne (Option.some.inj heq)

/-- A project of standard modules, with a directory that has an entry. -/
def standardProject : FileSystem where
  nodes := [(["app".toList], .directory),
    (["app".toList, "package.json".toList],
      .file (Text.utf8 "\x7b\"type\":\"module\"\x7d".toList)),
    (["app".toList, "lib".toList], .directory),
    (["app".toList, "lib".toList, "index.js".toList], .file (Text.utf8 "export default 1".toList))]

/-- **The law for one directory and two importers.** From a file, the entry of the directory is
resolved to its URL, and loaded as it was resolved. From an importer of the scheme of the host's
modules it is resolved with the same format to a URL of that scheme, and not loaded so. -/
theorem resolve_load_agree_importers :
    let entry := ["app".toList, "lib".toList, "index.js".toList]
    let byFile : ResolveContext :=
      { parentUrl := some (Url.fileUrl (.domain []) ["app".toList, "main.js".toList]) }
    let byHost : ResolveContext :=
      { parentUrl := some
          { scheme := "node".toList, path := .segments ["app".toList, "main.js".toList] } }
    let file : ResolvedModule := { url := Url.fileUrl (.domain []) entry, format := some .module }
    let host : ResolvedModule :=
      { url := { scheme := "node".toList, path := .segments entry }, format := some .module }
    let loads (url : Url) : Prop := ∀ attached conditions,
      attached = none ∨ attached = some .module →
      load {} Sass.noughts standardProject (StrictHost.loader standardProject) () url
          { format := attached, conditions }
        = .silent ((), .ok { source := some "export default 1".toList, format := .module,
                             shortCircuit := true })
    ((resolve standardProject (StrictHost.resolver standardProject) () "./lib" byFile).value.2
          = .ok file
        ∧ loads file.url)
      ∧ (resolve standardProject (StrictHost.resolver standardProject) () "./lib" byHost).value.2
          = .ok host
        ∧ ¬loads host.url := by
  intro entry byFile byHost file host loads
  have hfile : (resolve standardProject (StrictHost.resolver standardProject) () "./lib"
      byFile).value.2 = .ok file := by decide +kernel
  have hhost : (resolve standardProject (StrictHost.resolver standardProject) () "./lib"
      byHost).value.2 = .ok host := by decide +kernel
  have hcontent : standardProject.node? "/app/lib/index.js"
      = some (.file (Text.utf8 "export default 1".toList)) := by decide +kernel
  have hloaded : loadedAs (Text.utf8 "export default 1".toList) .module
      = .ok { source := some "export default 1".toList, format := .module,
              shortCircuit := true } := by decide +kernel
  have hloads : ∀ context (m : ResolvedModule),
      (resolve standardProject (StrictHost.resolver standardProject) () "./lib" context).value.2
        = .ok m →
      m.format = some .module → m.url.toFilePath? = some "/app/lib/index.js".toList →
      (loads m.url ↔ m.url.scheme ≠ "node".toList) := by
    intro context m hm hmodule hentry
    obtain ⟨path, content, format, hpath, hnode, hformat, -, hagree⟩ :=
      (resolve_load_agree {} Sass.noughts (by decide) hm).2.2 (by decide)
    cases Option.some.inj (hformat.symm.trans hmodule)
    obtain rfl := Option.some.inj (hpath.symm.trans hentry)
    cases Option.some.inj (hnode.symm.trans hcontent)
    rw [hloaded] at hagree
    exact hagree
  exact ⟨⟨hfile, (hloads byFile file hfile rfl (by decide)).mpr (by decide)⟩, hhost,
    fun h => (hloads byHost host hhost rfl (by decide)).mp h (by decide)⟩

end Import

end ModuleHooks
