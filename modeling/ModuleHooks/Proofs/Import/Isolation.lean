import ModuleHooks.Import.Load
import ModuleHooks.Proofs.Import.Conversation
/-!
# What an import can touch

An import passes two hooks, and what the second one does is decided by the format
that the first one attached. If that format is one of the two that only this
library attaches, the hosts behind the hooks are left alone, and resolution does not
even look at the disk; if it is any other, the host loads the module and nothing
is made of it here.

Both halves are statements about two runs. That resolution does not look at the
disk means that it does the same on every two disks; that the compiler does not
run means that what comes of the load is what comes of the host, whatever the
configuration, the disk and the numbers drawn by lot are. A stylesheet that is
compiled leaves a note before anything is read (`loading_mem_events`), so its
absence is visible in the journal too.
-/

namespace ModuleHooks.Import

open Specifier (classify)

variable {σ τ : Type} {c : Config} {draws : Sass.Draws} {fs : FileSystem}

/-! ## What is loaded here -/

section Load

variable (loader : LoadHost τ) (t : τ) {url : Url} {context : LoadContext}

/-- **An asset is loaded** without the host and without the disk. -/
theorem load_of_asset (h : context.format = some .asset) :
    load c draws fs loader t url context = .silent (t, .ok (loadAsset c url)) := by
  rw [load, h]

/-- A stylesheet is loaded without the host. -/
theorem load_of_stylesheet (h : context.format = some .stylesheet) :
    load c draws fs loader t url context = (loadStylesheet c draws fs url).map fun r => (t, r) := by
  rw [load, h]

/-- **All other formats are the host's**: its answer is passed on, and nothing is noted. -/
theorem load_of_isSynthetic (h : ∀ f ∈ context.format, f.isSynthetic = false) :
    load c draws fs loader t url context = .silent (loader.load t url context) := by
  unfold load
  split
  · next hformat =>
    have hsynthetic := h .asset hformat
    cases hsynthetic
  · next hformat =>
    have hsynthetic := h .stylesheet hformat
    cases hsynthetic
  · rfl

/-- What is loaded here was made up here. -/
theorem exists_synthetic_of_load {format : ModuleFormat} (h : context.format = some format)
    (hformat : format.isSynthetic = true) {l : LoadedModule}
    (hload : (load c draws fs loader t url context).value.2 = .ok l) :
    ∃ source, l = .synthetic source := by
  cases format with
  | asset =>
    rw [load_of_asset loader t h] at hload
    cases hload
    exact ⟨_, rfl⟩
  | stylesheet =>
    rw [load_of_stylesheet loader t h] at hload
    change (loadStylesheet c draws fs url).value = .ok l at hload
    unfold loadStylesheet at hload
    split at hload
    · cases hload
    · next path hpath =>
      rw [Logged.value_noted, Logged.value_map] at hload
      cases hcompiled : (Stylesheet.compileModule c draws fs path).value with
      | error why =>
        rw [hcompiled] at hload
        cases hload
      | ok source =>
        rw [hcompiled] at hload
        cases hload
        exact ⟨source, rfl⟩
  | _ => cases hformat

/-- **A stylesheet is noted before it is compiled.** -/
theorem loading_mem_events (h : context.format = some .stylesheet) {p : Path}
    (hurl : url.toFilePath? = some p) :
    Event.loading p ∈ (load c draws fs loader t url context).events := by
  rw [load_of_stylesheet loader t h, loadStylesheet, hurl]
  exact List.mem_cons_self

end Load

/-! ## What resolution attaches -/

section Resolve

variable (host : ResolveHost σ) (state : σ) {specifier : Text} {context : ResolveContext}

/-- The class of an intercepted specifier has a format of its own. -/
theorem exists_syntheticFormat? {k : ExtensionClass} (h : k.isIntercepted = true) :
    ∃ format, syntheticFormat? k = some format ∧ format.isSynthetic = true := by
  cases k with
  | notIntercepted => cases h
  | genericAsset => exact ⟨.asset, rfl, rfl⟩
  | stylesheet => exact ⟨.stylesheet, rfl, rfl⟩

/-- **The disk has no part in the answer** to an intercepted specifier. -/
theorem resolve_congr_of_format {format : ModuleFormat}
    (h : syntheticFormat? (classify specifier) = some format) (fs fs' : FileSystem) :
    resolve fs host state specifier context = resolve fs' host state specifier context := by
  unfold resolve
  rw [h]

/-- **What the host is asked for has the host's format**, if it never answers with another. -/
theorem isSynthetic_of_value_resolve (h : syntheticFormat? (classify specifier) = none)
    (hhost : ∀ state asked there m, (host.resolve state asked there).2 = .ok m →
      ∀ f ∈ m.format, f.isSynthetic = false)
    {m : ResolvedModule} (hm : (resolve fs host state specifier context).value.2 = .ok m) :
    ∀ f ∈ m.format, f.isSynthetic = false := by
  have hanswer : ∀ {state asked}, (host.resolve state asked context).2.mapError .resolve
      = (.ok m : Except LoaderError ResolvedModule) → ∀ f ∈ m.format, f.isSynthetic = false := by
    intro state asked hmap
    cases hcall : (host.resolve state asked context).2 with
    | error why =>
      rw [hcall] at hmap
      cases hmap
    | ok m' =>
      rw [hcall] at hmap
      cases hmap
      exact hhost state asked context m hcall
  cases hagain : again? fs specifier (host.resolve state specifier context).2 with
  | none =>
    rw [value_resolve_of_again_none host state h hagain] at hm
    exact hanswer hm
  | some again =>
    rw [value_resolve_of_again_some host state h hagain] at hm
    exact hanswer hm

/-- All that is noted about a specifier of the host is that it is asked for once more. -/
theorem exists_retry_of_mem_events (h : syntheticFormat? (classify specifier) = none)
    {e : Event} (he : e ∈ (resolve fs host state specifier context).events) :
    ∃ adjusted, e = .retryDirectory specifier adjusted
      ∨ e = .retryExtension specifier adjusted := by
  unfold resolve at he
  rw [h] at he
  cases hretry : retry? fs specifier (host.resolve state specifier context).2 with
  | none =>
    simp only [hretry] at he
    cases he
  | some x =>
    obtain ⟨again, note⟩ := x
    simp only [hretry] at he
    have hnote : note = some e := Option.mem_toList.mp he
    subst hnote
    unfold retry? at hretry
    split at hretry
    · split at hretry
      · cases hretry
        exact ⟨_, Or.inl rfl⟩
      · cases hretry
    · split at hretry
      · cases hretry
        exact ⟨_, Or.inr rfl⟩
      · cases hretry
    · cases hretry

end Resolve

/-! ## The two ways of an import -/

/-- **An import is either made here or left to the hosts**, from end to end.

If the specifier is intercepted, resolution does the same on every two file systems,
and neither it nor the load of what it resolved to says a word to the hosts. What is
loaded is a standard module with a source that ends the chain; for an asset it is the
same on every two file systems, whatever is drawn by lot, and for a stylesheet there
is a note that it is being loaded.

If the specifier is not intercepted and the host never answers with a format that is
attached here, nothing is noted but that the host is asked once more. What it resolved
to is loaded by one call of the host, for the URL and the format that were resolved,
and the host's answer is passed on without a note, whatever the configuration, the file
system and the draws are. -/
theorem import_isolated (c : Config) (resolver : ResolveHost σ) (loader : LoadHost τ) (s : σ)
    (t : τ) (specifier : Text) (context : ResolveContext) :
    ((classify specifier).isIntercepted = true →
        (∀ fs fs', resolve fs resolver s specifier context
          = resolve fs' resolver s specifier context)
        ∧ ∀ fs draws, (resolve fs resolver.recording (s, []) specifier context).value.1 = (s, [])
          ∧ ∀ m, (resolve fs resolver.recording (s, []) specifier context).value.2 = .ok m →
            (load c draws fs loader.recording (t, []) m.url (.ofResolved m)).value.1 = (t, [])
            ∧ (∀ l,
              (load c draws fs loader.recording (t, []) m.url (.ofResolved m)).value.2 = .ok l →
              l.format = .module ∧ l.source.isSome = true ∧ l.shortCircuit = true)
            ∧ (classify specifier = .genericAsset → ∀ fs' draws',
              load c draws fs loader t m.url (.ofResolved m)
                = load c draws' fs' loader t m.url (.ofResolved m))
            ∧ (classify specifier = .stylesheet → ∀ p, m.url.toFilePath? = some p →
              Event.loading p ∈ (load c draws fs loader t m.url (.ofResolved m)).events))
      ∧ ((classify specifier).isIntercepted = false →
        (∀ state asked there m, (resolver.resolve state asked there).2 = .ok m →
          ∀ f ∈ m.format, f.isSynthetic = false) →
        ∀ fs draws, (∀ e ∈ (resolve fs resolver s specifier context).events, ∃ adjusted,
            e = .retryDirectory specifier adjusted ∨ e = .retryExtension specifier adjusted)
          ∧ ∀ m, (resolve fs resolver s specifier context).value.2 = .ok m →
            load c draws fs loader.recording (t, []) m.url (.ofResolved m)
              = .silent (((loader.load t m.url (.ofResolved m)).1,
                  [⟨m.url, { format := m.format }⟩]),
                (loader.load t m.url (.ofResolved m)).2)) := by
  constructor
  · intro hclass
    obtain ⟨format, hformat, hsynthetic⟩ := exists_syntheticFormat? hclass
    refine ⟨resolve_congr_of_format resolver s hformat, fun fs draws => ?_⟩
    rw [value_resolve_of_format resolver.recording (s, []) hformat]
    refine ⟨rfl, fun m hm => ?_⟩
    -- Whatever the URL is, the module has the format of the class.
    have hmodule : m.format = some format := by
      cases hurl : interceptedUrl specifier context with
      | error why =>
        rw [hurl] at hm
        cases hm
      | ok url =>
        rw [hurl] at hm
        cases hm
        rfl
    have hcontext : (LoadContext.ofResolved m).format = some format := hmodule
    refine ⟨?_, fun l hl => ?_, fun hasset fs' draws' => ?_, fun hstylesheet p hp => ?_⟩
    · cases format with
      | asset => rw [load_of_asset _ _ hcontext, Logged.value_silent]
      | stylesheet => rw [load_of_stylesheet _ _ hcontext, Logged.value_map]
      | _ => cases hsynthetic
    · obtain ⟨source, rfl⟩ := exists_synthetic_of_load loader.recording (t, []) hcontext
        hsynthetic hl
      exact ⟨rfl, rfl, rfl⟩
    · rw [hasset] at hformat
      cases hformat
      rw [load_of_asset _ _ hcontext, load_of_asset _ _ hcontext]
    · rw [hstylesheet] at hformat
      cases hformat
      exact loading_mem_events loader t hcontext hp
  · intro hclass hhost fs draws
    have hformat : syntheticFormat? (classify specifier) = none :=
      syntheticFormat?_eq_none_iff.mpr hclass
    refine ⟨fun e he => exists_retry_of_mem_events resolver s hformat he, fun m hm => ?_⟩
    rw [load_of_isSynthetic loader.recording (t, [])
      (isSynthetic_of_value_resolve resolver s hformat hhost hm)]
    rfl

/-- A host that answers every question with the same module of its own, and counts. -/
def counting : ResolveHost Nat where
  resolve n _ _ :=
    (n + 1, .ok { url := { scheme := "node", path := .opaqueText "fs" }, format := some .builtin })

/-- A host that loads nothing. -/
def refusing : LoadHost Unit := .constant (.error (.fileSystem .notFound))

/-- **The law at three imports**: an asset and a stylesheet that leave the hosts alone,
and a module of the host, about which the loading host is asked. -/
theorem import_isolated_kinds :
    (∃ m, (resolve {} counting.recording (0, []) "/a/logo.png".toList {}).value
          = ((0, []), .ok m)
        ∧ ∀ fs', load {} Sass.noughts {} refusing () m.url (.ofResolved m)
          = load {} Sass.noughts fs' refusing () m.url (.ofResolved m))
      ∧ (∃ m, (resolve {} counting.recording (0, []) "/a/card.module.css".toList {}).value
          = ((0, []), .ok m)
        ∧ Event.loading "/a/card.module.css".toList
          ∈ (load {} Sass.noughts {} refusing () m.url (.ofResolved m)).events)
      ∧ ∃ m, (resolve {} counting 0 "fs".toList {}).value = (1, .ok m)
        ∧ (load {} Sass.noughts {} refusing.recording ((), []) m.url (.ofResolved m)).value
          = (((), [⟨m.url, { format := some .builtin }⟩]), .error (.fileSystem .notFound)) := by
  refine ⟨?_, ?_, ?_⟩
  · obtain ⟨-, hcalls⟩ :=
      (import_isolated {} counting refusing 0 () "/a/logo.png".toList {}).1 (by decide)
    obtain ⟨-, hload⟩ := hcalls {} Sass.noughts
    exact ⟨_, rfl, fun fs' => (hload _ rfl).2.2.1 (by decide) fs' Sass.noughts⟩
  · obtain ⟨-, hcalls⟩ :=
      (import_isolated {} counting refusing 0 () "/a/card.module.css".toList {}).1 (by decide)
    obtain ⟨-, hload⟩ := hcalls {} Sass.noughts
    exact ⟨_, rfl, (hload _ rfl).2.2.2 (by decide) _ (by decide)⟩
  · obtain ⟨-, hload⟩ :=
      (import_isolated {} counting refusing 0 () "fs".toList {}).2 (by decide)
        (fun _ _ _ m hm f hf => by
          cases hm
          cases hf
          rfl) {} Sass.noughts
    refine ⟨_, rfl, ?_⟩
    rw [hload _ rfl]
    rfl

end ModuleHooks.Import
