import ModuleHooks.Import.Load
import ModuleHooks.Plugin
import ModuleHooks.Proofs.Import.Conversation
import ModuleHooks.Proofs.Specifier.Extension
import ModuleHooks.Proofs.Stylesheet.Source
import ModuleHooks.Proofs.Text.Quoted
import ModuleHooks.Proofs.Url.FilePath
/-!
# The hooks and the plugin transform alike

A host with hooks hands a file over as a specifier; it becomes a URL, and the URL is
led back to a path before anything is compiled. A host with a plugin hands the path
over as it is. Since the path enters what is emitted, and decides which source is
compiled, the two can only agree if nothing happens to the path on the detour.

On the detour a path loses what its components lose, and gains a slash if it ends in a
drive letter. A path in normal form has nothing to lose, and no path with the extension
of a stylesheet or an asset ends in a drive letter (`settle_rooted`). So the two are the
same transform (`resolve_load_rooted`).

They are two runs all the same, and a source that draws numbers by lot draws other ones in each.
Where the source found for the path draws any, the two agree as far as they read it alike
(`Stylesheet.ReadAlike`); what is done around it is the same in any case.
-/

namespace ModuleHooks

open ModuleHooks.Path ModuleHooks.Specifier

variable {names : List Text}

/-- No known extension ends in a drive letter. -/
theorem Url.closeDrive_of_isIntercepted {p : Path} (h : (classify p).isIntercepted = true) :
    closeDrive p = p := by
  have hend : ∀ t c, p = t ++ [c] → (∀ e ∈ ExtensionClass.stylesheetExtensions
      ++ ExtensionClass.assetExtensions, e.getLast? ≠ some c.toLower) → False := by
    rintro t c rfl hc
    rw [classify_concat t hc] at h
    exact absurd h (by decide)
  cases hlast : p.getLast? with
  | none =>
    rw [List.getLast?_eq_none_iff.mp hlast] at h
    exact absurd h (by decide)
  | some c =>
    obtain ⟨t, ht⟩ := List.getLast?_eq_some_iff.mp hlast
    -- A drive letter ends in a colon or a bar, and no extension does.
    refine closeDrive_of_getLast hlast ?_ ?_
    · rintro rfl
      exact hend t _ ht (by decide)
    · rintro rfl
      exact hend t _ ht (by decide)

/-- **A path in normal form comes back** from its URL as it was. -/
theorem Url.settle_rooted (hnames : ∀ s ∈ names, IsStep s)
    (h : (classify (rooted names)).isIntercepted = true) :
    settle (rooted names) = rooted names := by
  rw [settle, steps_rooted hnames, closeDrive_of_isIntercepted h]

/-- **The plugin does not see what is drawn** as long as the source is read alike. -/
theorem Plugin.value_load_of_readAlike {c : Config} {draws draws' : Sass.Draws} {fs : FileSystem}
    {p : Path} (h : ∀ source, (Stylesheet.findSource c fs p).value = .ok source →
      Stylesheet.ReadAlike fs draws draws' source) :
    (load c draws fs p).value = (load c draws' fs p).value := by
  rw [load, load, Logged.value_noted, Logged.value_noted, Stylesheet.value_compileModule,
    Stylesheet.value_compileModule, Stylesheet.ReadAlike.compile_eq h]

namespace Import

variable {σ τ : Type} {c : Config} {draws : Sass.Draws} {fs : FileSystem}

/-- **The URL of an intercepted path** without an importer. -/
theorem exists_interceptedUrl (hnames : ∀ s ∈ names, IsStep s)
    (h : (classify (rooted names)).isIntercepted = true) (conditions : List Text) :
    ∃ url, interceptedUrl (rooted names) { conditions } = .ok url
      ∧ url.toFilePath? = some (rooted names) := by
  obtain ⟨url, hurl⟩ := Option.isSome_iff_exists.mp
    (Url.ofFilePath?_isSome_iff.mpr (isAbsolute_rooted names))
  refine ⟨url, ?_, ?_⟩
  · simp only [interceptedUrl, isAbsolute_rooted, if_true, hurl]
  · rw [Url.toFilePath?_ofFilePath? hurl, Url.settle_rooted hnames h]

/-- **A stylesheet is loaded as the plugin loads it.** -/
theorem value_load_stylesheet (loader : LoadHost τ) (t : τ) {url : Url} {p : Path}
    (hurl : url.toFilePath? = some p) {context : LoadContext}
    (hformat : context.format = some .stylesheet) :
    (load c draws fs loader t url context).value
      = (t, (Plugin.load c draws fs p).value.map LoadedModule.synthetic) := by
  have hload : loadStylesheet c draws fs url
      = .noted (.loading p) ((Stylesheet.compileModule c draws fs p).map fun r =>
        r.map LoadedModule.synthetic) := by
    rw [loadStylesheet, hurl]
  rw [load, hformat]
  show ((loadStylesheet c draws fs url).map fun r => (t, r)).value = _
  rw [hload, Logged.value_map, Logged.value_noted, Logged.value_map, Plugin.load,
    Logged.value_noted]

/-- The module of an asset that exports its path. -/
theorem assetModule_path (p : Path) :
    Emission.assetModule .path p
      = "const __PATH__ = ".toList ++ (Text.quote p ++ "; export default __PATH__;".toList) :=
  List.append_assoc "const __PATH__ = ".toList (Text.quote p) "; export default __PATH__;".toList

/-- **The literal in the module of an asset** is that of its path. -/
theorem value_load_asset (loader : LoadHost τ) (t : τ) {url : Url} {p : Path}
    (hurl : url.toFilePath? = some p) {context : LoadContext}
    (hformat : context.format = some .asset) (hexport : c.assetExport = .path) :
    ∃ literal, (load c draws fs loader t url context).value
        = (t, .ok (.synthetic ("const __PATH__ = ".toList ++ literal)))
      ∧ Text.unquote? literal = some (p, "; export default __PATH__;".toList) := by
  refine ⟨Text.quote p ++ "; export default __PATH__;".toList, ?_,
    Text.unquote?_quote_append p "; export default __PATH__;".toList⟩
  rw [load, hformat]
  show (t, Except.ok (loadAsset c url)) = _
  rw [loadAsset, assetPath, hurl, Option.getD_some, hexport, assetModule_path]

/-- **The hooks and the plugin are the same transform.**

Let a stylesheet or an asset be given by an absolute path in normal form, that is by names
none of which is empty or `.`; whatever else stands in the names, be it percent signs,
question marks, blanks, quotes or letters of any alphabet. Without an importer it resolves,
and what it resolved to can be loaded, without a word to the hosts behind the hooks. A
stylesheet is loaded with the text that the plugin has for the path, or fails as the plugin
does, if the two runs read its source alike: as they do when it is in CSS, when it draws
nothing by lot, and when the same is drawn for both. An asset that is to export its path has
a literal that is read as exactly this path. -/
theorem resolve_load_rooted (c : Config) (draws draws' : Sass.Draws) (fs : FileSystem)
    (host : ResolveHost σ) (loader : LoadHost τ) (s : σ) (t : τ) (conditions : List Text)
    {names : List Text}
    (hnames : ∀ s ∈ names, IsStep s)
    (hclass : (classify (rooted names)).isIntercepted = true) :
    ∃ m, (resolve fs host.recording (s, []) (rooted names) { conditions }).value
          = ((s, []), .ok m)
      ∧ (load c draws fs loader.recording (t, []) m.url (.ofResolved m)).value.1 = (t, [])
      ∧ (classify (rooted names) = .stylesheet →
        (∀ source, (Stylesheet.findSource c fs (rooted names)).value = .ok source →
          Stylesheet.ReadAlike fs draws draws' source) →
        (load c draws fs loader.recording (t, []) m.url (.ofResolved m)).value.2
          = (Plugin.load c draws' fs (rooted names)).value.map LoadedModule.synthetic)
      ∧ (classify (rooted names) = .genericAsset → c.assetExport = .path →
        ∃ literal, (load c draws fs loader.recording (t, []) m.url (.ofResolved m)).value.2
            = .ok (.synthetic ("const __PATH__ = ".toList ++ literal))
          ∧ Text.unquote? literal
            = some (rooted names, "; export default __PATH__;".toList)) := by
  obtain ⟨url, hintercepted, hurl⟩ := exists_interceptedUrl hnames hclass conditions
  cases hkind : classify (rooted names) with
  | notIntercepted =>
    rw [hkind] at hclass
    exact absurd hclass (by decide)
  | stylesheet =>
    refine ⟨{ url, format := some .stylesheet, shortCircuit := true }, ?_, ?_, ?_, nofun⟩
    · rw [value_resolve_of_format host.recording (s, []) (by rw [hkind]; rfl), hintercepted]
      rfl
    · rw [value_load_stylesheet _ _ hurl rfl]
    · intro _ halike
      rw [value_load_stylesheet _ _ hurl rfl, Plugin.value_load_of_readAlike halike]
  | genericAsset =>
    refine ⟨{ url, format := some .asset, shortCircuit := true }, ?_, rfl, nofun, ?_⟩
    · rw [value_resolve_of_format host.recording (s, []) (by rw [hkind]; rfl), hintercepted]
      rfl
    · intro _ hexport
      have hformat : (LoadContext.ofResolved
          { url, format := some .asset, shortCircuit := true }).format = some .asset := rfl
      obtain ⟨literal, hload, hliteral⟩ :=
        value_load_asset loader.recording (t, []) hurl hformat hexport
      exact ⟨literal, by rw [hload], hliteral⟩

/-- A directory with a stylesheet whose name reads like a reference with a query and a fragment. -/
def mySite : FileSystem where
  nodes := [(["my site".toList], .directory),
    (["my site".toList, "a?b#c.module.scss".toList],
      .file (Text.utf8 "li \x7b order: 1 + 1 \x7d".toList))]

/-- **The law at awkward names**: the stylesheet, which draws nothing, in two runs with different
draws, and an asset whose name holds a quote and what looks like an encoded letter. -/
theorem resolve_load_rooted_awkward :
    let loader := LoadHost.constant (.error (.fileSystem .notFound))
    let stylesheet := ["my site".toList, "a?b#c.module.scss".toList]
    let asset := ["my site".toList, "\"é\"%41.png".toList]
    (∃ m, (resolve mySite ResolveHost.scripted.recording ([], []) (rooted stylesheet) {}).value
          = (([], []), .ok m)
        ∧ (load {} Sass.noughts mySite loader.recording ((), []) m.url (.ofResolved m)).value.2
          = (Plugin.load {} (fun n => n) mySite (rooted stylesheet)).value.map .synthetic)
      ∧ ∃ m literal, (resolve mySite ResolveHost.scripted.recording ([], []) (rooted asset)
          {}).value = (([], []), .ok m)
        ∧ (load { assetExport := .path } Sass.noughts mySite loader.recording ((), []) m.url
            (.ofResolved m)).value.2 = .ok (.synthetic ("const __PATH__ = ".toList ++ literal))
        ∧ Text.unquote? literal
          = some ("/my site/\"é\"%41.png".toList, "; export default __PATH__;".toList) := by
  intro loader stylesheet asset
  constructor
  · have hfound : (Stylesheet.findSource {} mySite (rooted stylesheet)).value
        = .ok (rooted stylesheet) := Stylesheet.value_findSource_of_isFile (by decide +kernel)
    have hsettled : (Sass.evaluation mySite (rooted stylesheet)).settled?.isSome = true := by
      decide +kernel
    obtain ⟨r, hr⟩ := Option.isSome_iff_exists.mp hsettled
    obtain ⟨m, hm, -, hload, -⟩ := resolve_load_rooted {} Sass.noughts (fun n => n) mySite .scripted
      loader [] () [] (by decide : ∀ s ∈ stylesheet, IsStep s) (by decide)
    refine ⟨m, hm, hload (by decide) fun source hsource => ?_⟩
    cases hfound.symm.trans hsource
    exact .of_settled? hr
  · obtain ⟨m, hm, -, -, hasset⟩ := resolve_load_rooted { assetExport := .path } Sass.noughts
      Sass.noughts mySite .scripted loader [] () [] (by decide : ∀ s ∈ asset, IsStep s) (by decide)
    obtain ⟨literal, hload, hliteral⟩ := hasset (by decide) rfl
    exact ⟨m, literal, hm, hload, hliteral⟩

end Import

end ModuleHooks
