import ModuleHooks.Proofs.Config.Dates
import ModuleHooks.Proofs.Config.Overlay
/-!
# A file alone and as the only layer

A configuration file can be read alone, or be the only layer on top of the defaults. It should mean
the same. Both readings come down to one condition on the configuration (`Describes`), which every
document satisfies for one configuration at most, and the order in which the members are read plays
no part, since a document has no name twice (`ofTable_eq_ok_iff`, `overlayTable_eq_ok_iff`).

What is between the two is the form in which a layer is read. In that form a table whose first
member has the name of dates is a date, and a date is as good as a text. So there are two kinds of
documents that are taken on one route and refused on the other (`ofFile_load_agree`): those in which
such a table is no date (`Misdated`), although no key of the configuration needs it, and those that
have a date where a key wants a text (`HasDate`).
-/

namespace ModuleHooks.Config

variable {fs fs' : FileSystem} {env : Environment} {dir p : Path} {t t' : Toml.Table}
  {c d : Config} {k : Key} {v v' : Toml.Node} {route : Route}

/-! ## What a document describes -/

/-- **A document describes a configuration** on a route: each key that it has gets the value that
is spelled there, every other one has its default. -/
structure Describes (route : Route) (t : Toml.Table) (c : Config) : Prop where
  spelled : ∀ (k : Key) (v : Toml.Node), t.get? k.name = some v → k.SpellsOn route v (c.get k)
  default : ∀ k : Key, t.get? k.name = none → c.get k = ({} : Config).get k

/-- **A document in which every key has a value that is spelled right.** -/
def WellSpelled (route : Route) (t : Toml.Table) : Prop :=
  ∀ (k : Key) (v : Toml.Node), t.get? k.name = some v → ∃ x, k.SpellsOn route v x

theorem Describes.wellSpelled (h : Describes route t c) : WellSpelled route t :=
  fun k v hv => ⟨_, h.spelled k v hv⟩

theorem Describes.unique (hc : Describes route t c) (hd : Describes route t d) : c = d := by
  refine ext_get fun k => ?_
  cases hv : t.get? k.name with
  | none => rw [hc.default k hv, hd.default k hv]
  | some v => exact eq_of_spells (hc.spelled k v hv) (hd.spelled k v hv)

/-- What some members of a file that is read alone say of a configuration. -/
structure MembersSay (ms : List (Toml.Key × Toml.Node)) (c d : Config) : Prop where
  spelled : ∀ m ∈ ms, ∀ k : Key, m.1.name = k.name → k.SpellsOn .alone m.2 (d.get k)
  kept : ∀ k : Key, k.name ∉ ms.map (·.1.name) → d.get k = c.get k

/-- One member. -/
theorem readMember_cases (c : Config) (m : Toml.Key × Toml.Node) :
    (∃ d, readMember c m = .ok d ∧ MembersSay [m] c d)
      ∨ ((∃ why, readMember c m = .error why)
        ∧ ∃ k : Key, m.1.name = k.name ∧ ∀ x, ¬ k.SpellsOn .alone m.2 x) := by
  rw [readMember]
  cases hname : Key.ofName? m.1.name with
  | none =>
    refine Or.inl ⟨c, rfl, fun m' hm' k hk => ?_, fun _ _ => rfl⟩
    obtain rfl := List.mem_singleton.mp hm'
    rw [hk, Key.ofName?_name] at hname
    cases hname
  | some k =>
    have hk : k.name = m.1.name := by simpa using List.find?_some hname
    dsimp only
    rw [readField_eq]
    cases hx : fromNode .alone k m.2 with
    | ok x =>
      refine Or.inl ⟨c.put k x, rfl, fun m' hm' l hl => ?_, fun l hl => get_put_of_ne c x ?_⟩
      · obtain rfl := List.mem_singleton.mp hm'
        obtain rfl := Key.name_injective (hk.trans hl)
        rw [get_put_self]
        exact fromNode_eq_ok_iff.mp hx
      · rintro rfl
        exact hl (List.mem_singleton.mpr hk)
    | error why =>
      refine Or.inr ⟨⟨_, rfl⟩, k, hk.symm, fun x hspelt => ?_⟩
      rw [fromNode_eq_ok_iff.mpr hspelt] at hx
      cases hx

/-- What a member says, and after it what others of other names say. -/
theorem MembersSay.cons {m : Toml.Key × Toml.Node} {ms : List (Toml.Key × Toml.Node)} {e : Config}
    (hm : m.1.name ∉ ms.map (·.1.name)) (hfirst : MembersSay [m] c d) (hrest : MembersSay ms d e) :
    MembersSay (m :: ms) c e where
  spelled m' hm' k hk := by
    rcases List.mem_cons.mp hm' with rfl | hm'
    · rw [hrest.kept k (hk ▸ hm)]
      exact hfirst.spelled _ (List.mem_singleton_self _) k hk
    · exact hrest.spelled m' hm' k hk
  kept k hk := by
    rw [List.map_cons, List.mem_cons, not_or] at hk
    rw [hrest.kept k hk.2, hfirst.kept k fun hmem => hk.1 (List.mem_singleton.mp hmem)]

/-- The members of a file, one after the other. -/
theorem foldlM_readMember_cases {ms : List (Toml.Key × Toml.Node)}
    (hms : (ms.map (·.1.name)).Nodup) (c : Config) :
    (∃ d, ms.foldlM readMember c = .ok d ∧ MembersSay ms c d)
      ∨ ((∃ why, ms.foldlM readMember c = .error why)
        ∧ ∃ m ∈ ms, ∃ k : Key, m.1.name = k.name ∧ ∀ x, ¬ k.SpellsOn .alone m.2 x) := by
  induction ms generalizing c with
  | nil => exact Or.inl ⟨c, rfl, fun m hm => absurd hm List.not_mem_nil, fun _ _ => rfl⟩
  | cons m ms ih =>
    obtain ⟨hm, hms⟩ := List.nodup_cons.mp hms
    rw [List.foldlM_cons]
    rcases readMember_cases c m with ⟨d, hd, hfirst⟩ | ⟨⟨why, hwhy⟩, hbad⟩
    · rw [hd]
      rcases ih hms d with ⟨e, he, hrest⟩ | ⟨herror, m', hm', hbad⟩
      · exact Or.inl ⟨e, he, hfirst.cons hm hrest⟩
      · exact Or.inr ⟨herror, m', List.mem_cons_of_mem m hm', hbad⟩
    · rw [hwhy]
      exact Or.inr ⟨⟨why, rfl⟩, m, List.mem_cons_self, hbad⟩

/-- A document alone describes a configuration, unless it misspells the value of a key. -/
theorem ofTable_cases (ht : t.UniqueNames) :
    (∃ d, ofTable t = .ok d ∧ Describes .alone t d)
      ∨ ((∃ why, ofTable t = .error why) ∧ ¬ WellSpelled .alone t) := by
  rcases foldlM_readMember_cases ht {} with ⟨d, hd, h⟩ | ⟨herror, ⟨key, v⟩, hm, k, hk, hbad⟩
  · refine Or.inl ⟨d, hd, fun k v hv => ?_, fun k hk => ?_⟩
    · obtain ⟨key, hm, hname⟩ := ht.get?_eq_some_iff.mp hv
      exact h.spelled _ hm k hname
    · exact h.kept k (Toml.TableOf.get?_eq_none_iff.mp hk)
  · refine Or.inr ⟨herror, fun hwell => ?_⟩
    obtain ⟨x, hx⟩ := hwell k v (ht.get?_eq_some_iff.mpr ⟨key, hm, hk⟩)
    exact hbad x hx

/-- **A file that is read alone** means the configuration that it describes. -/
theorem ofTable_eq_ok_iff (ht : t.UniqueNames) : ofTable t = .ok c ↔ Describes .alone t c := by
  rcases ofTable_cases ht with ⟨d, hd, h⟩ | ⟨⟨why, hwhy⟩, hbad⟩
  · rw [hd, Except.ok.injEq]
    exact ⟨fun hdc => hdc ▸ h, fun hc => h.unique hc⟩
  · rw [hwhy]
    exact ⟨fun hc => absurd hc nofun, fun hc => absurd hc.wellSpelled hbad⟩

/-- **A layer on top of the defaults** means the configuration that it describes. -/
theorem overlayTable_eq_ok_iff : overlayTable {} t = .ok c ↔ Describes .layered t c := by
  rcases overlayTable_cases hasCallbacks_default t with ⟨d, hd, h⟩ | ⟨⟨why, hwhy⟩, k, v, hv, hbad⟩
  · have hdescribes : Describes .layered t d :=
      ⟨fun k v hv => h.spelled k (mem_keysByName k) v hv, fun k hk => h.kept k fun _ => hk⟩
    rw [hd, Except.ok.injEq]
    exact ⟨fun hdc => hdc ▸ hdescribes, fun hc => hdescribes.unique hc⟩
  · rw [hwhy]
    exact ⟨fun hc => absurd hc nofun, fun hc => absurd (hc.spelled k v hv) (hbad _)⟩

/-- A document with well-spelled values describes a configuration. -/
theorem WellSpelled.exists_describes_alone (h : WellSpelled .alone t) (ht : t.UniqueNames) :
    ∃ c, Describes .alone t c := by
  rcases ofTable_cases ht with ⟨d, -, hd⟩ | ⟨-, hbad⟩
  · exact ⟨d, hd⟩
  · exact absurd h hbad

theorem WellSpelled.exists_describes (ht : WellSpelled .layered t) :
    ∃ c, Describes .layered t c := by
  rcases overlayTable_cases hasCallbacks_default t with ⟨d, hd, -⟩ | ⟨-, k, v, hv, hbad⟩
  · exact ⟨d, overlayTable_eq_ok_iff.mp hd⟩
  · obtain ⟨x, hx⟩ := ht k v hv
    exact absurd hx (hbad x)

/-! ## Documents on both routes -/

/-- What a document alone describes, it describes as a layer. -/
theorem Describes.layered (h : Describes .alone t c) (ht : recogniseAll t = .ok t') :
    Describes .layered t' c where
  spelled k v' hv' := by
    rcases get?_recogniseAll_cases ht k.name with ⟨-, hnone⟩ | ⟨v, w, hv, hw, hrec⟩
    · rw [hnone] at hv'
      cases hv'
    · obtain rfl := Option.some.inj (hw.symm.trans hv')
      have hspelled := h.spelled k v hv
      rw [recognise_of_spellsOn hspelled, Except.ok.injEq] at hrec
      exact hrec ▸ layered_of_spellsOn hspelled
  default k hk := by
    rcases get?_recogniseAll_cases ht k.name with ⟨hnone, -⟩ | ⟨v, w, hv, hw, -⟩
    · exact h.default k hnone
    · rw [hk] at hw
      cases hw

/-- What a document describes as a layer it describes alone, if no key has a date. -/
theorem Describes.alone (h : Describes .layered t' c) (ht : recogniseAll t = .ok t')
    (hnone : ∀ (k : Key) (v : Toml.Node), t.get? k.name = some v → ¬ HasDate v) :
    Describes .alone t c where
  spelled k v hv := by
    rcases get?_recogniseAll_cases ht k.name with ⟨hmissing, -⟩ | ⟨w, v', hw, hv', hrec⟩
    · rw [hmissing] at hv
      cases hv
    · obtain rfl := Option.some.inj (hw.symm.trans hv)
      exact spellsOn_alone_of_recognise hrec (h.spelled k v' hv') (hnone k w hv)
  default k hk := by
    rcases get?_recogniseAll_cases ht k.name with ⟨-, hmissing⟩ | ⟨v, w, hv, hw, -⟩
    · exact h.default k hmissing
    · rw [hk] at hv
      cases hv

/-! ## Files -/

/-- **The document that is written in a file.** -/
def Written (fs : FileSystem) (p : Path) (t : Toml.Table) : Prop :=
  ∃ text, fs.readText p = .ok text ∧ Toml.parse text = .ok t

theorem Written.unique (h : Written fs p t) (h' : Written fs p t') : t = t' := by
  obtain ⟨text, hread, hparse⟩ := h
  obtain ⟨text', hread', hparse'⟩ := h'
  obtain rfl : text = text' := Except.ok.inj (hread.symm.trans hread')
  exact Except.ok.inj (hparse.symm.trans hparse')

theorem Written.uniqueNames (h : Written fs p t) : t.UniqueNames := by
  obtain ⟨text, -, hparse⟩ := h
  exact Toml.uniqueNames_of_parse hparse

theorem written_congr (h : fs'.readText p = fs.readText dir) :
    Written fs' p t ↔ Written fs dir t := by
  rw [Written, Written, h]

/-- What is made of the text of a file. -/
theorem readWith_eq_ok_iff {read : Text → Except Toml.Fault Config} :
    readWith fs p read = .ok c ↔ ∃ text, fs.readText p = .ok text ∧ read text = .ok c := by
  rw [readWith]
  cases fs.readText p with
  | error why =>
    constructor
    · intro h
      cases h
    · rintro ⟨text, htext, -⟩
      cases htext
  | ok text =>
    dsimp only
    rw [mapError_eq_ok_iff]
    constructor
    · intro h
      exact ⟨text, rfl, h⟩
    · rintro ⟨text', htext, h⟩
      cases htext
      exact h

theorem ofFile_eq_ok_iff :
    ofFile fs p = .ok c ↔ ∃ t, Written fs p t ∧ Describes .alone t c := by
  rw [ofFile, readWith_eq_ok_iff]
  constructor
  · rintro ⟨text, hread, h⟩
    obtain ⟨t, hparse, h⟩ := Toml.exists_of_bind_eq_ok h
    exact ⟨t, ⟨text, hread, hparse⟩, (ofTable_eq_ok_iff (Toml.uniqueNames_of_parse hparse)).mp h⟩
  · rintro ⟨t, ⟨text, hread, hparse⟩, h⟩
    refine ⟨text, hread, ?_⟩
    rw [parse, hparse]
    exact (ofTable_eq_ok_iff (Toml.uniqueNames_of_parse hparse)).mpr h

theorem value_mergeFile_eq_ok_iff : (mergeFile fs {} p).value = .ok c ↔
    ∃ t t', Written fs p t ∧ recogniseAll t = .ok t' ∧ Describes .layered t' c := by
  rw [mergeFile, Logged.value_noted, Logged.value_silent, readWith_eq_ok_iff]
  constructor
  · rintro ⟨text, hread, h⟩
    obtain ⟨t', hlayer, h⟩ := Toml.exists_of_bind_eq_ok h
    obtain ⟨t, hparse, ht⟩ := Toml.exists_of_bind_eq_ok hlayer
    exact ⟨t, t', ⟨text, hread, hparse⟩, ht, overlayTable_eq_ok_iff.mp h⟩
  · rintro ⟨t, t', ⟨text, hread, hparse⟩, ht, h⟩
    refine ⟨text, hread, ?_⟩
    rw [overlay, parseLayer, hparse, Except.bind, ht]
    exact overlayTable_eq_ok_iff.mpr h

/-- Variables that are not about the configuration leave it alone. -/
theorem value_applyVariables_of_forall_none (h : ∀ v ∈ env, variableKey? v.1 = none) (c : Config) :
    (applyVariables c env).value = c := by
  have hcalls : env.filterMap call? = [] := by
    rw [List.filterMap_eq_nil_iff]
    intro v hv
    rw [call?, h v hv, Option.map_none]
  rw [value_applyVariables, hcalls, afterAll, List.foldl_nil]

/-- Without a global file and without variables, the project's file is the configuration. -/
theorem value_load_of_no_others (hfile : fs.isFile (projectPath dir) = true)
    (hglobal : ∀ q, globalPath? env = some q → fs.isFile q = false)
    (hvariables : ∀ v ∈ env, variableKey? v.1 = none) :
    (load fs env dir).value = (mergeFile fs {} (projectPath dir)).value := by
  have hstart : (globalLayer fs env).value = .ok {} := by
    unfold globalLayer
    cases hpath : globalPath? env with
    | none => rfl
    | some q =>
      show (mergeIfPresent fs {} q).value = _
      rw [mergeIfPresent, hglobal q hpath]
      rfl
  rw [value_load, hstart, Except.bind, mergeIfPresent, if_pos hfile]
  simp only [value_applyVariables_of_forall_none hvariables]
  cases (mergeFile fs {} (projectPath dir)).value <;> rfl

/-- An outcome that is no success is a failure. -/
theorem exists_error_iff {ε α : Type} {x : Except ε α} :
    (∃ why, x = .error why) ↔ ¬ ∃ a, x = .ok a := by
  cases x <;> simp

/-- **A file alone and as the only layer.** When both routes take a file, it is the same
configuration for both. A file that is taken alone is refused as the only layer exactly if a table
in it stands for a date and is none, and a file that is taken as the only layer is refused alone
exactly if it has a date for a key of the configuration. -/
theorem ofFile_load_agree (hfile : fs.isFile (projectPath dir) = true)
    (hglobal : ∀ q, globalPath? env = some q → fs.isFile q = false)
    (hvariables : ∀ v ∈ env, variableKey? v.1 = none)
    (hcontent : fs'.readText p = fs.readText (projectPath dir)) :
    (∀ c d, ofFile fs' p = .ok c → (load fs env dir).value = .ok d → c = d)
      ∧ ((∃ c, ofFile fs' p = .ok c) ∧ (∃ why, (load fs env dir).value = .error why)
        ↔ ∃ t, Written fs' p t ∧ WellSpelled .alone t ∧ ∃ m ∈ t.members, Misdated m.2)
      ∧ ((∃ why, ofFile fs' p = .error why) ∧ (∃ d, (load fs env dir).value = .ok d)
        ↔ ∃ t t', Written fs' p t ∧ recogniseAll t = .ok t' ∧ WellSpelled .layered t'
          ∧ ∃ (k : Key) (v : Toml.Node), t.get? k.name = some v ∧ HasDate v) := by
  have hload : ∀ {d}, (load fs env dir).value = .ok d ↔
      ∃ t t', Written fs' p t ∧ recogniseAll t = .ok t' ∧ Describes .layered t' d := by
    intro d
    simp only [value_load_of_no_others hfile hglobal hvariables, value_mergeFile_eq_ok_iff,
      written_congr hcontent]
  refine ⟨fun c d hc hd => ?_, ?_, ?_⟩
  · obtain ⟨t, ht, hc⟩ := ofFile_eq_ok_iff.mp hc
    obtain ⟨u, t', hu, ht', hd⟩ := hload.mp hd
    obtain rfl := ht.unique hu
    exact (hc.layered ht').unique hd
  · constructor
    · rintro ⟨⟨c, hc⟩, herror⟩
      obtain ⟨t, ht, hc⟩ := ofFile_eq_ok_iff.mp hc
      refine ⟨t, ht, hc.wellSpelled, exists_recogniseAll_error_iff.mp ?_⟩
      -- If the dates could be recognised, the file would be taken as a layer.
      refine exists_error_iff.mpr fun ⟨t', ht'⟩ => exists_error_iff.mp herror ⟨c, ?_⟩
      exact hload.mpr ⟨t, t', ht, ht', hc.layered ht'⟩
    · rintro ⟨t, ht, hwell, hbad⟩
      obtain ⟨c, hc⟩ := hwell.exists_describes_alone ht.uniqueNames
      refine ⟨⟨c, ofFile_eq_ok_iff.mpr ⟨t, ht, hc⟩⟩, exists_error_iff.mpr fun ⟨d, hd⟩ => ?_⟩
      obtain ⟨u, t', hu, ht', -⟩ := hload.mp hd
      obtain rfl := ht.unique hu
      exact exists_error_iff.mp (exists_recogniseAll_error_iff.mpr hbad) ⟨t', ht'⟩
  · constructor
    · rintro ⟨herror, d, hd⟩
      obtain ⟨t, t', ht, ht', hd⟩ := hload.mp hd
      refine ⟨t, t', ht, ht', hd.wellSpelled, ?_⟩
      -- If no key had a date, the file would be taken alone.
      by_contra hnone
      refine exists_error_iff.mp herror ⟨d, ofFile_eq_ok_iff.mpr ⟨t, ht, hd.alone ht' ?_⟩⟩
      exact fun k v hv hdate => hnone ⟨k, v, hv, hdate⟩
    · rintro ⟨t, t', ht, ht', hwell, k, v, hv, hdate⟩
      obtain ⟨d, hd⟩ := hwell.exists_describes
      refine ⟨exists_error_iff.mpr fun ⟨c, hc⟩ => ?_, d, hload.mpr ⟨t, t', ht, ht', hd⟩⟩
      obtain ⟨u, hu, hc⟩ := ofFile_eq_ok_iff.mp hc
      obtain rfl := ht.unique hu
      exact not_hasDate_of_spellsOn (hc.spelled k v hv) hdate

/-- A source directory that is written as a date is refused alone and a text in a layer. A table
that has the name of dates and is none makes a layer fail, although no key wants it. -/
theorem ofFile_load_agree_dated :
    let dir := "/".toList
    let dated := onlyProject "source-dir = 1979-05-27".toList
    let misdated := onlyProject "x = \x7b \"$__toml_private_datetime\" = 1 \x7d".toList
    (dated.isFile (projectPath dir) = true ∧ misdated.isFile (projectPath dir) = true)
      ∧ ((∃ why, ofFile dated (projectPath dir) = .error why)
        ∧ (load dated [] dir).value = .ok { sourceDir := "1979-05-27".toList }
        ∧ ∃ t, Written dated (projectPath dir) t
          ∧ ∃ (k : Key) (v : Toml.Node), t.get? k.name = some v ∧ HasDate v)
      ∧ (ofFile misdated (projectPath dir) = .ok {}
        ∧ (∃ why, (load misdated [] dir).value = .error why)
        ∧ ∃ t, Written misdated (projectPath dir) t ∧ ∃ m ∈ t.members, Misdated m.2) := by
  intro dir dated misdated
  have hdated : dated.isFile (projectPath dir) = true := by decide +kernel +zetaReduce
  have hmisdated : misdated.isFile (projectPath dir) = true := by decide +kernel +zetaReduce
  have hnone : ∀ fs : FileSystem, ∀ q, globalPath? [] = some q → fs.isFile q = false :=
    fun _ _ hq => absurd hq nofun
  have halone : ¬ ∃ c, ofFile dated (projectPath dir) = .ok c := by
    have hnot : (ofFile dated (projectPath dir)).toOption = none := by
      decide +kernel +zetaReduce
    rintro ⟨c, hc⟩
    rw [hc] at hnot
    cases hnot
  have hlayer : ¬ ∃ c, (load misdated [] dir).value = .ok c := by
    have hnot : (load misdated [] dir).value.toOption = none := by decide +kernel +zetaReduce
    rintro ⟨c, hc⟩
    rw [hc] at hnot
    cases hnot
  have hload : (load dated [] dir).value = .ok { sourceDir := "1979-05-27".toList } := by
    decide +kernel +zetaReduce
  have hofFile : ofFile misdated (projectPath dir) = .ok {} := by decide +kernel +zetaReduce
  obtain ⟨-, -, hdates⟩ := ofFile_load_agree hdated (hnone dated) (fun _ hv => nomatch hv) rfl
  obtain ⟨-, htables, -⟩ :=
    ofFile_load_agree hmisdated (hnone misdated) (fun _ hv => nomatch hv) rfl
  obtain ⟨t, -, ht, -, -, hdate⟩ := hdates.mp ⟨exists_error_iff.mpr halone, _, hload⟩
  obtain ⟨u, hu, -, hbad⟩ := htables.mp ⟨⟨_, hofFile⟩, exists_error_iff.mpr hlayer⟩
  exact ⟨⟨hdated, hmisdated⟩, ⟨exists_error_iff.mpr halone, hload, t, ht, hdate⟩,
    hofFile, exists_error_iff.mpr hlayer, u, hu, hbad⟩

end ModuleHooks.Config
