import ModuleHooks.Proofs.Config.Variables
/-!
# What decides a setting

The configuration of a project is built up by rewriting it layer by layer. Seen from
one key, all this comes to a precedence: the last variable that sets the key, else the
project's file, else the global file, else the default (`Decides`).

A layer of a file goes through a document that cannot write an absent callback. It
never has to, because no file can take a callback away (`HasCallbacks`); so a key that
a file does not mention keeps its value (`mergeIfPresent_cases`). Loading fails for a
fault of a file and for nothing else, and it does so whether or not a later layer
would have had the last word (`load_layers`).
-/

namespace ModuleHooks.Config

variable {fs : FileSystem} {env : Environment} {dir p : Path}

/-! ## Documents -/

/-- A configuration in which both callbacks are there. -/
structure HasCallbacks (c : Config) : Prop where
  onCssImported : c.onCssImported ≠ none
  onCss : c.onCss ≠ none

theorem hasCallbacks_default : HasCallbacks {} where
  onCssImported := by decide
  onCss := by decide

/-- What is there is remembered. -/
theorem HasCallbacks.remembered_eq {c : Config} (hc : HasCallbacks c) : c.remembered = c := by
  obtain ⟨s, hs⟩ := Option.ne_none_iff_exists'.mp hc.onCssImported
  obtain ⟨t, ht⟩ := Option.ne_none_iff_exists'.mp hc.onCss
  rw [remembered, hs, ht, Option.some_or, Option.some_or, ← hs, ← ht]

/-- A document that misspells the value of a key. -/
def Misspells (t : Toml.Table) (k : Key) : Prop :=
  ∃ v, t.get? k.name = some v ∧ ∀ x, ¬ k.Spells v x

/-- **What a document says of some keys.** A key that it has gets the value that is
spelled there, every other one keeps its value. -/
structure Overlays (t : Toml.Table) (ks : List Key) (c d : Config) : Prop where
  spelled : ∀ k ∈ ks, ∀ v, t.get? k.name = some v → k.Spells v (d.get k)
  kept : ∀ k, (k ∈ ks → t.get? k.name = none) → d.get k = c.get k

variable {t : Toml.Table} {ks : List Key} {c d e : Config} {k : Key}

/-- A field of a layer that is not there. -/
theorem readLayerField_of_none (hv : t.get? k.name = none) (c : Config) :
    readLayerField t c k = .ok c := by
  rw [readLayerField, hv]

/-- A field of a layer that is there. -/
theorem readLayerField_of_some {v : Toml.Node} (hv : t.get? k.name = some v) (c : Config) :
    readLayerField t c k = ((fromNode .layered k v).map (c.put k)).mapError
      fun f => { message := f.message, keys := [k.name] } := by
  rw [← readField_eq, readLayerField, hv]

/-- One field of a layer. -/
theorem readLayerField_cases (t : Toml.Table) (c : Config) (k : Key) :
    (∃ d, readLayerField t c k = .ok d ∧ Overlays t [k] c d)
      ∨ ((∃ why, readLayerField t c k = .error why) ∧ Misspells t k) := by
  cases hv : t.get? k.name with
  | none =>
    refine Or.inl ⟨c, readLayerField_of_none hv c, fun l hl v hsome => ?_, fun l _ => rfl⟩
    rw [List.mem_singleton.mp hl, hv] at hsome
    cases hsome
  | some v =>
    rw [readLayerField_of_some hv]
    cases hx : fromNode .layered k v with
    | ok x =>
      refine Or.inl ⟨c.put k x, rfl, fun l hl w hw => ?_, fun l hl => get_put_of_ne c x ?_⟩
      · obtain rfl := List.mem_singleton.mp hl
        obtain rfl : v = w := Option.some.inj (hv.symm.trans hw)
        rw [get_put_self]
        exact fromNode_eq_ok_iff.mp hx
      · rintro rfl
        rw [hl (List.mem_singleton_self l)] at hv
        cases hv
    | error why =>
      refine Or.inr ⟨⟨_, rfl⟩, v, hv, fun x hspelt => ?_⟩
      rw [fromNode_eq_ok_iff.mpr hspelt] at hx
      cases hx

/-- What a document says of a key, and after it what it says of others. -/
theorem Overlays.cons (hk : k ∉ ks) (hfirst : Overlays t [k] c d) (hrest : Overlays t ks d e) :
    Overlays t (k :: ks) c e where
  spelled l hl v hv := by
    rcases List.mem_cons.mp hl with rfl | hl
    · rw [hrest.kept l fun hmem => absurd hmem hk]
      exact hfirst.spelled l (List.mem_singleton_self l) v hv
    · exact hrest.spelled l hl v hv
  kept l hl := by
    rw [hrest.kept l fun hmem => hl (List.mem_cons_of_mem k hmem),
      hfirst.kept l fun hmem => hl (List.mem_singleton.mp hmem ▸ List.mem_cons_self)]

/-- The fields of a layer, one after the other. -/
theorem foldlM_readLayerField_cases (hks : ks.Nodup) (t : Toml.Table) (c : Config) :
    (∃ d, ks.foldlM (readLayerField t) c = .ok d ∧ Overlays t ks c d)
      ∨ ((∃ why, ks.foldlM (readLayerField t) c = .error why) ∧ ∃ k ∈ ks, Misspells t k) := by
  -- The first fault ends the reading, and what was read before it does not count.
  induction ks generalizing c with
  | nil => exact Or.inl ⟨c, rfl, fun k hk => absurd hk List.not_mem_nil, fun k _ => rfl⟩
  | cons k ks ih =>
    obtain ⟨hk, hks⟩ := List.nodup_cons.mp hks
    rw [List.foldlM_cons]
    rcases readLayerField_cases t c k with ⟨d, hd, hfirst⟩ | ⟨⟨why, hwhy⟩, hbad⟩
    · rw [hd]
      rcases ih hks d with ⟨e, he, hrest⟩ | ⟨herror, l, hl, hbad⟩
      · exact Or.inl ⟨e, he, hfirst.cons hk hrest⟩
      · exact Or.inr ⟨herror, l, List.mem_cons_of_mem k hl, hbad⟩
    · rw [hwhy]
      exact Or.inr ⟨⟨why, rfl⟩, k, List.mem_cons_self, hbad⟩

theorem mem_keysByName (k : Key) : k ∈ keysByName := by
  cases k <;> decide

/-- **A document on top of a configuration.** -/
theorem overlayTable_cases (hc : HasCallbacks c) (t : Toml.Table) :
    (∃ d, c.overlayTable t = .ok d ∧ Overlays t keysByName c d)
      ∨ ((∃ why, c.overlayTable t = .error why) ∧ ∃ k, Misspells t k) := by
  rw [overlayTable, hc.remembered_eq]
  rcases foldlM_readLayerField_cases (by decide : keysByName.Nodup) t c with
    h | ⟨herror, k, -, hbad⟩
  · exact Or.inl h
  · exact Or.inr ⟨herror, k, hbad⟩

/-- No document takes a callback away. -/
theorem Overlays.hasCallbacks (h : Overlays t keysByName c d) (hc : HasCallbacks c) :
    HasCallbacks d where
  onCssImported := by
    cases hv : t.get? Key.onCssImported.name with
    | none => exact (h.kept .onCssImported fun _ => hv).trans_ne hc.onCssImported
    | some v =>
      obtain ⟨s, -, hs⟩ := h.spelled .onCssImported (mem_keysByName _) v hv
      exact Option.ne_none_iff_exists'.mpr ⟨s, hs⟩
  onCss := by
    cases hv : t.get? Key.onCss.name with
    | none => exact (h.kept .onCss fun _ => hv).trans_ne hc.onCss
    | some v =>
      obtain ⟨s, -, hs⟩ := h.spelled .onCss (mem_keysByName _) v hv
      exact Option.ne_none_iff_exists'.mpr ⟨s, hs⟩

/-! ## Files -/

/-- **The document of a file** that is there, as a layer. -/
def Holds (fs : FileSystem) (p : Path) (t : Toml.Table) : Prop :=
  fs.isFile p = true ∧ ∃ text, fs.readText p = .ok text ∧ parseLayer text = .ok t

/-- **The value that a file has for a key**, as it is written. -/
def Mentions (fs : FileSystem) (p : Path) (k : Key) (v : Toml.Node) : Prop :=
  ∃ t, Holds fs p t ∧ t.get? k.name = some v

/-- **A file that cannot be used**: it is there, and it cannot be read, is no document, or
misspells the value of a key. -/
inductive Faulty (fs : FileSystem) (p : Path) : Prop
  | unreadable {why : SystemError} :
    fs.isFile p = true → fs.readText p = .error why → Faulty fs p
  | malformed {text : Text} {why : Toml.Fault} :
    fs.isFile p = true → fs.readText p = .ok text → parseLayer text = .error why → Faulty fs p
  | misspelt {k : Key} {v : Toml.Node} :
    Mentions fs p k v → (∀ x, ¬ k.Spells v x) → Faulty fs p

/-- **What a file says of a configuration.** -/
structure Layered (fs : FileSystem) (p : Path) (c d : Config) : Prop where
  faultless : ¬ Faulty fs p
  spelled : ∀ k v, Mentions fs p k v → k.Spells v (d.get k)
  kept : ∀ k, (∀ v, ¬ Mentions fs p k v) → d.get k = c.get k

theorem Holds.unique {t t' : Toml.Table} (h : Holds fs p t) (h' : Holds fs p t') : t = t' := by
  obtain ⟨-, text, hread, hparse⟩ := h
  obtain ⟨-, text', hread', hparse'⟩ := h'
  obtain rfl : text = text' := Except.ok.inj (hread.symm.trans hread')
  exact Except.ok.inj (hparse.symm.trans hparse')

/-- The document of a file says what the file says. -/
theorem Overlays.layered (ht : Holds fs p t) (h : Overlays t keysByName c d) :
    Layered fs p c d where
  faultless hfaulty := by
    cases hfaulty with
    | unreadable _ hread =>
      obtain ⟨-, text, hread', -⟩ := ht
      rw [hread] at hread'
      cases hread'
    | malformed _ hread hparse =>
      obtain ⟨-, text, hread', hparse'⟩ := ht
      obtain rfl := Except.ok.inj (hread.symm.trans hread')
      rw [hparse] at hparse'
      cases hparse'
    | misspelt hmentions hbad =>
      obtain ⟨t', ht', hv⟩ := hmentions
      obtain rfl := ht.unique ht'
      exact hbad _ (h.spelled _ (mem_keysByName _) _ hv)
  spelled k v hmentions := by
    obtain ⟨t', ht', hv⟩ := hmentions
    obtain rfl := ht.unique ht'
    exact h.spelled k (mem_keysByName k) v hv
  kept k hk := by
    refine h.kept k fun _ => ?_
    cases hv : t.get? k.name with
    | none => rfl
    | some v => exact absurd ⟨t, ht, hv⟩ (hk v)

/-- A file that is there is put on top, if it is a document. -/
theorem value_mergeIfPresent_of_text {text : Text} (hfile : fs.isFile p = true)
    (hread : fs.readText p = .ok text) (c : Config) :
    (mergeIfPresent fs c p).value
      = ((parseLayer text).bind c.overlayTable).mapError fun f => .document (f.render text) := by
  rw [mergeIfPresent, if_pos hfile, mergeFile, Logged.value_noted, Logged.value_silent, readWith,
    hread]
  rfl

/-- A file that is there must be readable. -/
theorem value_mergeIfPresent_of_unreadable {why : SystemError} (hfile : fs.isFile p = true)
    (hread : fs.readText p = .error why) (c : Config) :
    (mergeIfPresent fs c p).value = .error (.fileSystem why) := by
  rw [mergeIfPresent, if_pos hfile, mergeFile, Logged.value_noted, Logged.value_silent, readWith,
    hread]

/-- **A file on top of a configuration**, if it is there. -/
theorem mergeIfPresent_cases (hc : HasCallbacks c) (fs : FileSystem) (p : Path) :
    (∃ d, (mergeIfPresent fs c p).value = .ok d ∧ HasCallbacks d ∧ Layered fs p c d)
      ∨ ((∃ why, (mergeIfPresent fs c p).value = .error why) ∧ Faulty fs p) := by
  by_cases hfile : fs.isFile p = true
  · cases hread : fs.readText p with
    | error why =>
      exact Or.inr ⟨⟨_, value_mergeIfPresent_of_unreadable hfile hread c⟩, .unreadable hfile hread⟩
    | ok text =>
      rw [value_mergeIfPresent_of_text hfile hread]
      cases hparse : parseLayer text with
      | error why => exact Or.inr ⟨⟨_, rfl⟩, .malformed hfile hread hparse⟩
      | ok t =>
        have ht : Holds fs p t := ⟨hfile, text, hread, hparse⟩
        rw [Except.bind]
        rcases overlayTable_cases hc t with ⟨d, hd, h⟩ | ⟨⟨why, hwhy⟩, k, v, hv, hbad⟩
        · exact Or.inl ⟨d, by rw [hd]; rfl, h.hasCallbacks hc, h.layered ht⟩
        · exact Or.inr ⟨⟨_, by rw [hwhy]; rfl⟩, .misspelt ⟨t, ht, hv⟩ hbad⟩
  · have hnone : ∀ k v, ¬ Mentions fs p k v := fun k v ⟨t, ht, _⟩ => hfile ht.1
    refine Or.inl ⟨c, by rw [mergeIfPresent, if_neg hfile]; rfl, hc, fun hfaulty => ?_,
      fun k v h => absurd h (hnone k v), fun k _ => rfl⟩
    cases hfaulty with
    | unreadable h => exact hfile h
    | malformed h => exact hfile h
    | misspelt h => exact hnone _ _ h

/-- **Files that are alike up to unknown keys**: both are not there, or both are documents
with the same values for all keys of the configuration. -/
inductive SameKeys (fs fs' : FileSystem) (p : Path) : Prop
  | absent : fs.isFile p = false → fs'.isFile p = false → SameKeys fs fs' p
  | present {t t' : Toml.Table} :
    Holds fs p t → Holds fs' p t' → (∀ k : Key, t.get? k.name = t'.get? k.name) →
    SameKeys fs fs' p

theorem overlayTable_congr {t' : Toml.Table} (h : ∀ k : Key, t.get? k.name = t'.get? k.name)
    (c : Config) : c.overlayTable t = c.overlayTable t' := by
  have hfield : readLayerField t = readLayerField t' := by
    funext c k
    rw [readLayerField, readLayerField, h]
  rw [overlayTable, overlayTable, hfield]

theorem toOption_mergeIfPresent_of_holds (ht : Holds fs p t) (c : Config) :
    (mergeIfPresent fs c p).value.toOption = (c.overlayTable t).toOption := by
  obtain ⟨hfile, text, hread, hparse⟩ := ht
  rw [value_mergeIfPresent_of_text hfile hread, hparse, Except.bind]
  cases c.overlayTable t <;> rfl

/-- Unknown keys have no part in what a file says. -/
theorem SameKeys.toOption_mergeIfPresent {fs' : FileSystem} (h : SameKeys fs fs' p) (c : Config) :
    (mergeIfPresent fs' c p).value.toOption = (mergeIfPresent fs c p).value.toOption := by
  cases h with
  | absent hfile hfile' =>
    rw [mergeIfPresent, mergeIfPresent, hfile, hfile']
    rfl
  | present ht ht' hkeys =>
    rw [toOption_mergeIfPresent_of_holds ht, toOption_mergeIfPresent_of_holds ht',
      overlayTable_congr hkeys]

/-! ## The configuration of a project -/

/-- The defaults with the global file on top. -/
def globalLayer (fs : FileSystem) (env : Environment) : Logged (Except LoaderError Config) :=
  match globalPath? env with
  | some p => mergeIfPresent fs {} p
  | none => .silent (.ok {})

/-- The files of a project, one on top of the other. -/
theorem value_loadFiles (fs : FileSystem) (env : Environment) (dir : Path) :
    (loadFiles fs (globalPath? env) dir).value = (globalLayer fs env).value.bind fun c =>
      (mergeIfPresent fs c (projectPath dir)).value := by
  show ((globalLayer fs env).andThen _).value = _
  rw [Logged.value_andThen]
  cases (globalLayer fs env).value <;> rfl

theorem value_load (fs : FileSystem) (env : Environment) (dir : Path) :
    (load fs env dir).value = (globalLayer fs env).value.bind fun c =>
      (mergeIfPresent fs c (projectPath dir)).value.map fun d => (applyVariables d env).value := by
  rw [load, Logged.value_andThen, value_loadFiles]
  cases (globalLayer fs env).value with
  | error why => rfl
  | ok c =>
    simp only [Except.bind]
    cases (mergeIfPresent fs c (projectPath dir)).value <;> rfl

/-- **A project with a file that cannot be used.** -/
def Misconfigured (fs : FileSystem) (env : Environment) (dir : Path) : Prop :=
  (∃ p, globalPath? env = some p ∧ Faulty fs p) ∨ Faulty fs (projectPath dir)

/-- **What decides a setting.** -/
inductive Decides (fs : FileSystem) (env : Environment) (dir : Path) (k : Key) : k.Value → Prop
  /-- The last variable that sets the key. -/
  | byVariable {x : k.Value} : LastSets env k x → Decides fs env dir k x
  /-- The project's file, if no variable sets the key. -/
  | byProject {v : Toml.Node} {x : k.Value} :
    Unset env k → Mentions fs (projectPath dir) k v → k.Spells v x → Decides fs env dir k x
  /-- The global file, if the project's file does not mention the key either. -/
  | byGlobal {p : Path} {v : Toml.Node} {x : k.Value} :
    Unset env k → (∀ v, ¬ Mentions fs (projectPath dir) k v) → globalPath? env = some p →
    Mentions fs p k v → k.Spells v x → Decides fs env dir k x
  /-- The default, if nobody mentions the key. -/
  | byDefault :
    Unset env k → (∀ v, ¬ Mentions fs (projectPath dir) k v) →
    (∀ p v, globalPath? env = some p → ¬ Mentions fs p k v) →
    Decides fs env dir k (({} : Config).get k)

/-- The global file, if there is one to look for. -/
theorem globalLayer_cases (fs : FileSystem) (env : Environment) :
    (∃ c, (globalLayer fs env).value = .ok c ∧ HasCallbacks c
        ∧ (∀ p, globalPath? env = some p → Layered fs p {} c)
        ∧ (globalPath? env = none → c = {}))
      ∨ ((∃ why, (globalLayer fs env).value = .error why)
        ∧ ∃ p, globalPath? env = some p ∧ Faulty fs p) := by
  unfold globalLayer
  cases globalPath? env with
  | none => exact Or.inl ⟨{}, rfl, hasCallbacks_default, fun _ hp => absurd hp nofun, fun _ => rfl⟩
  | some p =>
    rcases mergeIfPresent_cases hasCallbacks_default fs p with ⟨c, hc, hcallbacks, h⟩ | ⟨herror, h⟩
    · refine Or.inl ⟨c, hc, hcallbacks, fun q hq => ?_, fun hnone => absurd hnone nofun⟩
      obtain rfl := Option.some.inj hq
      exact h
    · exact Or.inr ⟨herror, p, rfl, h⟩

/-- **The layers of a configuration**, from the defaults to the variables. -/
theorem load_cases (fs : FileSystem) (env : Environment) (dir : Path) :
    (∃ c d, (load fs env dir).value = .ok (applyVariables d env).value
        ∧ Layered fs (projectPath dir) c d
        ∧ (∀ p, globalPath? env = some p → Layered fs p {} c)
        ∧ (globalPath? env = none → c = {}))
      ∨ ((∃ why, (load fs env dir).value = .error why) ∧ Misconfigured fs env dir) := by
  rw [value_load]
  rcases globalLayer_cases fs env with ⟨c, hc, hcallbacks, hglobal, hnone⟩ | ⟨⟨why, hwhy⟩, hfaulty⟩
  · rw [hc, Except.bind]
    rcases mergeIfPresent_cases hcallbacks fs (projectPath dir) with
      ⟨d, hd, -, hproject⟩ | ⟨⟨why, hwhy⟩, hfaulty⟩
    · rw [hd]
      exact Or.inl ⟨c, d, rfl, hproject, hglobal, hnone⟩
    · rw [hwhy]
      exact Or.inr ⟨⟨why, rfl⟩, Or.inr hfaulty⟩
  · rw [hwhy]
    exact Or.inr ⟨⟨why, rfl⟩, Or.inl hfaulty⟩

/-- What is mentioned is written in one way. -/
theorem Mentions.unique {v w : Toml.Node} (hv : Mentions fs p k v) (hw : Mentions fs p k w) :
    v = w := by
  obtain ⟨t, ht, hv⟩ := hv
  obtain ⟨t', ht', hw⟩ := hw
  obtain rfl := ht.unique ht'
  exact Option.some.inj (hv.symm.trans hw)

section Precedence

variable (hproject : Layered fs (projectPath dir) c d)
  (hglobal : ∀ p, globalPath? env = some p → Layered fs p {} c)
  (hnone : globalPath? env = none → c = {})

include hproject hglobal hnone

/-- A key that neither the variables nor the files mention has its default. -/
theorem get_eq_default (hmentions : ∀ v, ¬ Mentions fs (projectPath dir) k v)
    (hmissing : ∀ p v, globalPath? env = some p → ¬ Mentions fs p k v) :
    d.get k = ({} : Config).get k := by
  rw [hproject.kept k hmentions]
  cases hpath : globalPath? env with
  | none => rw [hnone hpath]
  | some p => exact (hglobal p hpath).kept k fun v => hmissing p v hpath

/-- What decides a setting is what it is. -/
theorem get_eq_of_decides {x : k.Value} (h : Decides fs env dir k x) :
    (applyVariables d env).value.get k = x := by
  cases h with
  | byVariable hlast => exact get_applyVariables_of_lastSets hlast d
  | byProject hunset hv hx =>
    rw [get_applyVariables_of_unset hunset]
    exact eq_of_spells (hproject.spelled k _ hv) hx
  | byGlobal hunset hmissing hpath hv hx =>
    rw [get_applyVariables_of_unset hunset, hproject.kept k hmissing]
    exact eq_of_spells ((hglobal _ hpath).spelled k _ hv) hx
  | byDefault hunset hmissing hnowhere =>
    rw [get_applyVariables_of_unset hunset]
    exact get_eq_default hproject hglobal hnone hmissing hnowhere

/-- Something decides every setting. -/
theorem decides_get (k : Key) : Decides fs env dir k ((applyVariables d env).value.get k) := by
  rcases unset_or_exists_lastSets env k with hunset | ⟨x, hlast⟩
  · -- Without a variable the innermost file that mentions the key decides.
    rw [get_applyVariables_of_unset hunset]
    by_cases hv : ∃ v, Mentions fs (projectPath dir) k v
    · obtain ⟨v, hv⟩ := hv
      exact .byProject hunset hv (hproject.spelled k v hv)
    rw [not_exists] at hv
    by_cases hw : ∃ p v, globalPath? env = some p ∧ Mentions fs p k v
    · obtain ⟨p, w, hpath, hw⟩ := hw
      rw [hproject.kept k hv]
      exact .byGlobal hunset hv hpath hw ((hglobal p hpath).spelled k w hw)
    have hnowhere : ∀ p v, globalPath? env = some p → ¬ Mentions fs p k v :=
      fun p v hpath hmentions => hw ⟨p, v, hpath, hmentions⟩
    rw [get_eq_default hproject hglobal hnone hv hnowhere]
    exact .byDefault hunset hv hnowhere
  · rw [get_applyVariables_of_lastSets hlast]
    exact .byVariable hlast

end Precedence

/-- Unknown keys in the files have no part in the configuration. -/
theorem toOption_load_congr {fs' : FileSystem}
    (hglobal : ∀ p, globalPath? env = some p → SameKeys fs fs' p)
    (hproject : SameKeys fs fs' (projectPath dir)) :
    (load fs' env dir).value.toOption = (load fs env dir).value.toOption := by
  have hstart : (globalLayer fs' env).value.toOption = (globalLayer fs env).value.toOption := by
    unfold globalLayer
    cases hpath : globalPath? env with
    | none => rfl
    | some p => exact (hglobal p hpath).toOption_mergeIfPresent {}
  have hbind : ∀ fs, (load fs env dir).value.toOption
      = (globalLayer fs env).value.toOption.bind fun c =>
        (mergeIfPresent fs c (projectPath dir)).value.toOption.map
          fun d => (applyVariables d env).value := by
    intro fs
    rw [value_load]
    cases (globalLayer fs env).value with
    | error why => rfl
    | ok c =>
      show Except.toOption (Except.map _ _) = Option.map _ (Except.toOption _)
      cases (mergeIfPresent fs c (projectPath dir)).value <;> rfl
  rw [hbind, hbind, hstart]
  refine congrArg _ (funext fun c => ?_)
  rw [hproject.toOption_mergeIfPresent]

/-- Variables of different keys may change places. -/
theorem value_load_congr {env' : Environment} (h : ∀ key, about key env = about key env') :
    (load fs env' dir).value = (load fs env dir).value := by
  rw [value_load, value_load, globalLayer, globalLayer, globalPath?_congr (h none)]
  simp only [value_applyVariables_congr h]

/-- A variable that sets nothing has no part in the configuration. -/
theorem value_load_of_forall_not {before after : Environment} {v : Text × Text} {key : Text}
    (hkey : variableKey? v.1 = some key) (h : ∀ k x, ¬ Sets v k x) :
    (load fs (before ++ v :: after) dir).value = (load fs (before ++ after) dir).value := by
  rw [value_load, value_load, globalLayer, globalLayer, globalPath?_append_cons hkey]
  simp only [value_applyVariables_of_forall_not h]

/-- **The configuration of a project, key by key.**

When it can be loaded, each setting is what decides it: the last variable that sets the
key, else the project's file, else the global file, else the default. It cannot be loaded
exactly if one of the files is there and cannot be used, even if a later layer has
another value for the key in question.

Unknown keys of the files, and variables that are about no key or have a value that is
refused, have no part in this. Nor does the order of variables of different keys. -/
theorem load_layers (fs : FileSystem) (env : Environment) (dir : Path) :
    (∀ c, (load fs env dir).value = .ok c → ∀ k x, c.get k = x ↔ Decides fs env dir k x)
      ∧ ((∃ why, (load fs env dir).value = .error why) ↔ Misconfigured fs env dir)
      ∧ (∀ fs', (∀ p, globalPath? env = some p → SameKeys fs fs' p) →
        SameKeys fs fs' (projectPath dir) →
        (load fs' env dir).value.toOption = (load fs env dir).value.toOption)
      ∧ (∀ before v after key, env = before ++ v :: after → variableKey? v.1 = some key →
        (∀ k x, ¬ Sets v k x) →
        (load fs env dir).value = (load fs (before ++ after) dir).value)
      ∧ (∀ env', (∀ key, about key env = about key env') →
        (load fs env' dir).value = (load fs env dir).value) := by
  refine ⟨?_, ?_, fun fs' hglobal hproject => toOption_load_congr hglobal hproject, ?_,
    fun env' h => value_load_congr h⟩
  · intro e he k x
    rcases load_cases fs env dir with ⟨c, d, hd, hproject, hglobal, hnone⟩ | ⟨⟨why, hwhy⟩, -⟩
    · obtain rfl := Except.ok.inj (he.symm.trans hd)
      constructor
      · rintro rfl
        exact decides_get hproject hglobal hnone k
      · exact get_eq_of_decides hproject hglobal hnone
    · rw [he] at hwhy
      cases hwhy
  · rcases load_cases fs env dir with ⟨c, d, hd, hproject, hglobal, hnone⟩ | ⟨herror, hbad⟩
    · refine iff_of_false (fun ⟨why, hwhy⟩ => ?_) fun hbad => ?_
      · rw [hd] at hwhy
        cases hwhy
      · rcases hbad with ⟨p, hpath, hfaulty⟩ | hfaulty
        · exact (hglobal p hpath).faultless hfaulty
        · exact hproject.faultless hfaulty
    · exact iff_of_true herror hbad
  · rintro before v after key rfl hkey h
    exact value_load_of_forall_not hkey h

/-- All four have their say: a variable has the last word on the source directory, and
another one is refused; the project's file has it on the assets, the global file on the
callback, and nobody changes the names of classes. -/
example :
    (load
      { nodes := [(["home".toList], .directory), (["home".toList, "jopi".toList], .directory),
          (["home".toList, "jopi".toList, "loader.toml".toList],
            .file (Text.utf8 "on-css = \"global\"\nsource-dir = \"lib\"\n".toList)),
          (["jopi-loader.toml".toList],
            .file (Text.utf8 "asset-export = \"path\"\ncolour = 1\n".toList))] }
      [("XDG_CONFIG_HOME".toList, "/home".toList),
        ("JOPI_LOADER_SOURCE_DIR".toList, "app".toList),
        ("JOPI_LOADER_ASSET_EXPORT".toList, "nothing".toList)]
      "/".toList).value.toOption
      = some
        { assetExport := .path, onCss := some "global".toList, sourceDir := "app".toList } := by
  decide +kernel

end ModuleHooks.Config
