import ModuleHooks.Proofs.Config.Layers
/-!
# A file on top of any configuration

What `Proofs.Config.Layers` says of a layer, it says of configurations in which both callbacks are
there. Those are the ones that are ever given a layer. Of the others, a document does not remember
everything: an absent callback comes back with its default (`Config.remembered`), and that is all
that is lost (`get_remembered`). So a file keeps every key that it does not mention, unless the key
is a callback that was absent (`mergeFile_keeps`).

A file that mentions no key changes nothing but that, and a file that has been put on top changes
nothing when it is put on top again: after the first time the callbacks are there.
-/

namespace ModuleHooks.Config

variable {fs : FileSystem} {p : Path} {c d : Config} {k : Key}

/-! ## What is remembered -/

/-- **A key whose callback is absent.** -/
inductive Lacks (c : Config) : Key → Prop
  | onCssImported : c.onCssImported = none → Lacks c .onCssImported
  | onCss : c.onCss = none → Lacks c .onCss

/-- Every value is remembered but that of an absent callback. -/
theorem get_remembered (h : ¬ Lacks c k) : c.remembered.get k = c.get k := by
  cases k with
  | onCssImported =>
    have hthere : c.onCssImported ≠ none := fun hnone => h (.onCssImported hnone)
    obtain ⟨s, hs⟩ := Option.ne_none_iff_exists'.mp hthere
    show c.onCssImported.or _ = c.onCssImported
    rw [hs, Option.some_or]
  | onCss =>
    have hthere : c.onCss ≠ none := fun hnone => h (.onCss hnone)
    obtain ⟨s, hs⟩ := Option.ne_none_iff_exists'.mp hthere
    show c.onCss.or _ = c.onCss
    rw [hs, Option.some_or]
  | classNaming | localsConvention | assetExport | outputDirs | sourceDir => rfl

/-- What is remembered has callbacks. -/
theorem hasCallbacks_remembered (c : Config) : HasCallbacks c.remembered where
  onCssImported := by
    show c.onCssImported.or _ ≠ none
    cases c.onCssImported <;> exact Option.some_ne_none _
  onCss := by
    show c.onCss.or _ ≠ none
    cases c.onCss <;> exact Option.some_ne_none _

/-- A file is put on top of what is remembered. -/
theorem mergeFile_remembered (fs : FileSystem) (c : Config) (p : Path) :
    mergeFile fs c.remembered p = mergeFile fs c p := by
  have hoverlay : c.remembered.overlay = c.overlay := by
    funext document
    have htable : c.remembered.overlayTable = c.overlayTable := by
      funext t
      rw [overlayTable, (hasCallbacks_remembered c).remembered_eq, overlayTable]
    rw [overlay, htable, overlay]
  rw [mergeFile, hoverlay, mergeFile]

/-! ## Files -/

/-- **A file that can be used is put on top**, whatever the configuration. -/
theorem exists_layered (hfile : fs.isFile p = true) (hfaultless : ¬ Faulty fs p) (c : Config) :
    ∃ d, (mergeFile fs c p).value = .ok d ∧ HasCallbacks d ∧ Layered fs p c.remembered d := by
  -- Nothing is known of layers but for configurations with callbacks, as the remembered one is.
  rcases mergeIfPresent_cases (hasCallbacks_remembered c) fs p with h | ⟨-, hfaulty⟩
  · rw [mergeIfPresent, if_pos hfile, mergeFile_remembered] at h
    exact h
  · exact absurd hfaulty hfaultless

/-- A file that has been put on top can be used. -/
theorem not_faulty_of_value_mergeFile (hfile : fs.isFile p = true)
    (hd : (mergeFile fs c p).value = .ok d) : ¬ Faulty fs p := by
  rcases mergeIfPresent_cases (hasCallbacks_remembered c) fs p with ⟨_, -, -, h⟩ | ⟨⟨why, hwhy⟩, -⟩
  · exact h.faultless
  · rw [mergeIfPresent, if_pos hfile, mergeFile_remembered, hd] at hwhy
    cases hwhy

/-- A file that cannot be used cannot be put on top of anything. -/
theorem exists_error_of_faulty (hfile : fs.isFile p = true) (hfaulty : Faulty fs p) (c : Config) :
    ∃ why, (mergeFile fs c p).value = .error why := by
  cases hd : (mergeFile fs c p).value with
  | error why => exact ⟨why, rfl⟩
  | ok d => exact absurd hfaulty (not_faulty_of_value_mergeFile hfile hd)

/-- Two configurations of which a file says the same are the same, if what they do not have from
the file is. -/
theorem Layered.eq {c' d' : Config} (h : Layered fs p c d) (h' : Layered fs p c' d')
    (hkept : ∀ k, (∀ v, ¬ Mentions fs p k v) → c.get k = c'.get k) : d = d' := by
  refine ext_get fun k => ?_
  by_cases hk : ∃ v, Mentions fs p k v
  · obtain ⟨v, hv⟩ := hk
    exact eq_of_spells (h.spelled k v hv) (h'.spelled k v hv)
  · rw [not_exists] at hk
    rw [h.kept k hk, h'.kept k hk, hkept k hk]

/-- A file that is put on top twice is put on top once. -/
theorem value_mergeFile_again (hfile : fs.isFile p = true) (hd : (mergeFile fs c p).value = .ok d) :
    (mergeFile fs d p).value = .ok d := by
  have hfaultless := not_faulty_of_value_mergeFile hfile hd
  obtain ⟨d', hd', hcallbacks, h⟩ := exists_layered hfile hfaultless c
  obtain rfl := Except.ok.inj (hd.symm.trans hd')
  obtain ⟨e, he, -, hagain⟩ := exists_layered hfile hfaultless d
  rw [hcallbacks.remembered_eq] at hagain
  -- The second time, what the file does not mention is there from the first time.
  obtain rfl : e = d := hagain.eq h fun k hk => h.kept k hk
  exact he

/-- **A file keeps the keys that it does not mention.** A file that is there, can be read, is a
document and spells the values of its keys can be put on top of any configuration. Each key that
it mentions gets the value that is spelled there, and every other one keeps its value, unless it
is a callback that is absent.

If no callback is absent, a file that mentions no key changes nothing. A file that is put on top
a second time never does. -/
theorem mergeFile_keeps (hfile : fs.isFile p = true) (hfaultless : ¬ Faulty fs p) (c : Config) :
    ∃ d, (mergeFile fs c p).value = .ok d
      ∧ (∀ k v, Mentions fs p k v → k.Spells v (d.get k))
      ∧ (∀ k, (∀ v, ¬ Mentions fs p k v) → ¬ Lacks c k → d.get k = c.get k)
      ∧ ((∀ k v, ¬ Mentions fs p k v) → (∀ k, ¬ Lacks c k) → d = c)
      ∧ (mergeFile fs d p).value = .ok d := by
  obtain ⟨d, hd, -, h⟩ := exists_layered hfile hfaultless c
  have hkept : ∀ k, (∀ v, ¬ Mentions fs p k v) → ¬ Lacks c k → d.get k = c.get k :=
    fun k hk hthere => (h.kept k hk).trans (get_remembered hthere)
  exact ⟨d, hd, h.spelled, hkept, fun hnone hthere => ext_get fun k => hkept k (hnone k) (hthere k),
    value_mergeFile_again hfile hd⟩

/-- A system with nothing but a project's file. -/
def onlyProject (text : Text) : FileSystem :=
  { nodes := [([fileName], .file (Text.utf8 text))] }

/-- What a file mentions stands in its text. -/
theorem Mentions.exists_parse {text : Text} {v : Toml.Node} (h : Mentions fs p k v)
    (hread : fs.readText p = .ok text) :
    ∃ t, parseLayer text = .ok t ∧ t.get? k.name = some v := by
  obtain ⟨t, ⟨-, text', hread', hparse⟩, hv⟩ := h
  obtain rfl := Except.ok.inj (hread.symm.trans hread')
  exact ⟨t, hparse, hv⟩

/-- A file with a source directory, on top of a configuration with no output directories and with
one callback: the directories and that callback are kept. -/
theorem mergeFile_keeps_sourceDir :
    let fs := onlyProject "source-dir = \"lib\"".toList
    let p := '/' :: fileName
    let c : Config := { outputDirs := [], onCssImported := none, onCss := some "show".toList }
    fs.isFile p = true ∧ ¬ Faulty fs p
      ∧ ∃ d, (mergeFile fs c p).value = .ok d
        ∧ d.sourceDir = "lib".toList ∧ d.outputDirs = [] ∧ d.onCss = some "show".toList
        ∧ (mergeFile fs d p).value = .ok d := by
  intro fs p c
  have hfile : fs.isFile p = true := by decide +kernel +zetaReduce
  have hvalue : (mergeFile fs c p).value = .ok { c with
      onCssImported := ({} : Config).onCssImported, sourceDir := "lib".toList } := by
    decide +kernel +zetaReduce
  have hfaultless := not_faulty_of_value_mergeFile hfile hvalue
  obtain ⟨d, hd, -, -, -, hagain⟩ := mergeFile_keeps hfile hfaultless c
  obtain rfl := Except.ok.inj (hvalue.symm.trans hd)
  exact ⟨hfile, hfaultless, _, hd, rfl, rfl, rfl, hagain⟩

/-- A document with so many arrays in each other. -/
def nestedArrays (n : Nat) : Text :=
  "x = ".toList ++ (List.replicate n '[' ++ List.replicate n ']')

/-- **What a file does not keep.** An empty file brings an absent callback back, and a document
with arrays in arrays, eighty deep, cannot be put on top of anything. -/
theorem not_forall_kept :
    (¬ ∀ (fs : FileSystem) (p : Path) (c : Config), fs.isFile p = true → ¬ Faulty fs p →
      ∃ d, (mergeFile fs c p).value = .ok d
        ∧ ∀ k, (∀ v, ¬ Mentions fs p k v) → d.get k = c.get k)
    ∧ ∀ c, ∃ why,
      (mergeFile (onlyProject (nestedArrays 80)) c ('/' :: fileName)).value = .error why := by
  constructor
  · intro h
    have hfile : (onlyProject []).isFile ('/' :: fileName) = true := by decide +kernel
    have hread : (onlyProject []).readText ('/' :: fileName) = .ok [] := by decide +kernel
    have hvalue : (mergeFile (onlyProject []) { onCss := none } ('/' :: fileName)).value
        = .ok {} := by
      decide +kernel
    have hfaultless := not_faulty_of_value_mergeFile hfile hvalue
    obtain ⟨d, hd, hkept⟩ := h _ _ { onCss := none } hfile hfaultless
    obtain rfl := Except.ok.inj (hvalue.symm.trans hd)
    have hmissing : ∀ v, ¬ Mentions (onlyProject []) ('/' :: fileName) .onCss v := by
      intro v hv
      obtain ⟨t, ht, hv⟩ := hv.exists_parse hread
      cases ht
      cases hv
    cases (hkept .onCss hmissing : ({} : Config).onCss = none)
  · have hfile : (onlyProject (nestedArrays 80)).isFile ('/' :: fileName) = true := by
      decide +kernel
    have hread : (onlyProject (nestedArrays 80)).readText ('/' :: fileName)
        = .ok (nestedArrays 80) := by
      decide +kernel
    have hnone : (parseLayer (nestedArrays 80)).toOption.isNone = true := by decide +kernel
    cases hparse : parseLayer (nestedArrays 80) with
    | ok t =>
      rw [hparse] at hnone
      cases hnone
    | error why => exact exists_error_of_faulty hfile (.malformed hfile hread hparse)

end ModuleHooks.Config
