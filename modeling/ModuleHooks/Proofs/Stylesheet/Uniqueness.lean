import ModuleHooks.Proofs.Stylesheet.Composition
import ModuleHooks.Proofs.Stylesheet.Outcome
/-!
# Class names of different files

A hashed class name ends with a mark, and all marks are of one length. Therefore nothing that
stands in front of a mark can make up for a difference in it: two files with different marks have
no class name in common, whatever their stems and their local names are
(`mark_eq_of_scopedName_eq`).

What is marked is not the file but its CSS. A source in the richer language goes on under the
name of the CSS beside it (`outputPath`), so that its class names are those of the CSS that is
shipped in its place. But nobody asks whether the CSS beside it was compiled from it. Hashed
names promise to be unique across files, and this is broken by two stylesheets of one directory,
one in either language and of one stem: they have all their class names in common
(`not_forall_disjoint`). No other two files have any (`compile_hashed_disjoint`).
-/

namespace ModuleHooks

/-- All marks are of one length. -/
theorem Hash.length_mark (t : Text) : (Hash.mark t).length = 6 := rfl

/-- **One class name has one mark**, in whatever files it stands. -/
theorem Css.Scoping.mark_eq_of_scopedName_eq {filename filename' : Path} {x y : Text}
    (h : (ofNaming .hashed filename).scopedName x = (ofNaming .hashed filename').scopedName y) :
    Hash.mark filename = Hash.mark filename' := by
  rw [scopedName_hashed, scopedName_hashed] at h
  exact (List.append_inj' h (by rw [Hash.length_mark, Hash.length_mark])).2

namespace ClassMap

/-- **The first name of a value**, up to a space. -/
def firstName (v : Text) : Text := v.takeWhile (· ≠ ' ')

/-- The first name of an export is its scoped name, unless there is a space in it. -/
theorem firstName_value {e : Css.Export} (h : ' ' ∉ e.name) : firstName (value e) = e.name := by
  have hname : ∀ c ∈ e.name, decide (c ≠ ' ') = true := fun c hc =>
    decide_eq_true fun heq => h (heq ▸ hc)
  rw [firstName, value]
  cases e.composes.map Css.Reference.name with
  | nil => rw [Text.join_singleton, List.takeWhile_eq_self_iff.mpr hname]
  | cons r references =>
    rw [Text.join_cons _ (List.cons_ne_nil r references), List.append_assoc,
      List.takeWhile_append_of_pos hname]
    show e.name ++ List.takeWhile _ (' ' :: _) = e.name
    rw [List.takeWhile_cons_of_neg (by simp), List.append_nil]

end ClassMap

namespace Stylesheet

open ClassMap

variable {c : Config} {draws : Sass.Draws} {fs : FileSystem} {p q : Path} {s t : CompiledStylesheet}

/-! ## The name that is marked -/

/-- **The path of a stylesheet's CSS**: that of the CSS beside it for a source in the richer
language, else its own. -/
def outputPath (p : Path) : Path := if isSass p then compiledPath p else p

/-- The compiled CSS of a scoped stylesheet goes on under the path of the CSS beside it. -/
theorem cssSibling_eq_compiledPath (hext : Specifier.extension p = ".scss".toList)
    (hscope : Scope.ofPath p = .scoped) : cssSibling p = compiledPath p := by
  obtain ⟨front, stem, ext, h⟩ := exists_isSource hext
  -- A dot alone does not end like the stem of a scoped stylesheet.
  have hup : stem ≠ ['.'] := by
    rintro rfl
    rw [h.ofPath] at hscope
    exact absurd hscope (by decide)
  rw [h.cssSibling_eq, if_neg hup, h.compiledPath_eq]

/-- **The CSS of a scoped stylesheet** goes on under its output path. -/
theorem eq_outputPath_of_hasCss {css : Text} {filename : Path} (h : HasCss draws fs p css filename)
    (hscope : Scope.ofPath p = .scoped) : filename = outputPath p := by
  cases h with
  | plain ext text => rw [outputPath, if_neg (mt isSass_iff.mp ext)]
  | translated ext translation =>
    rw [outputPath, if_pos (isSass_iff.mpr ext), cssSibling_eq_compiledPath ext hscope]

/-- **Two files with one output path** have one stem, and one of them is in the richer
language. -/
theorem sibling_of_outputPath_eq (hne : p ≠ q) (h : outputPath p = outputPath q) :
    (isSass p = true ∨ isSass q = true) ∧ compiledPath p = compiledPath q := by
  have hcompiled : ∀ p, isSass p = true → compiledPath (compiledPath p) = compiledPath p := by
    intro p hp
    obtain ⟨front, stem, ext, hsource⟩ := exists_isSource (isSass_iff.mp hp)
    rw [hsource.compiledPath_eq]
    show compiledPath (front ++ '.' :: "css".toList) = _
    rw [compiledPath, Text.splitLast?_append_cons front (by decide)]
  unfold outputPath at h
  split_ifs at h with hp hq hq
  · exact ⟨Or.inl hp, h⟩
  · refine ⟨Or.inl hp, ?_⟩
    rw [← h, hcompiled p hp]
  · refine ⟨Or.inr hq, ?_⟩
    rw [h, hcompiled q hq]
  · exact absurd h hne

/-! ## The names of a file -/

/-- **The names in a class map**: every value is a scoped name with its references, and the
scoped name is that of a local name which comes to the key. It is the first name of the value,
unless there is a space in it. -/
def HasNames (convention : LocalsConvention) (scoping : Css.Scoping) (m : ClassMap) : Prop :=
  ∀ k v, (k, v) ∈ m → ∃ x references, key convention x = k
    ∧ v = value { name := scoping.scopedName x, composes := references }
    ∧ (' ' ∉ scoping.scopedName x → firstName v = scoping.scopedName x)

/-- **The class map of a scoped stylesheet** has the names that its output path marks. -/
theorem exists_hasNames (hfile : fs.isFile p = true) (hs : (compile c draws fs p).value = .ok s)
    (hscope : s.scope = .scoped) :
    ∃ sheet, scopedSheet? c draws fs p = some (.ofNaming c.classNaming (outputPath p), sheet)
      ∧ HasNames c.localsConvention (.ofNaming c.classNaming (outputPath p)) s.classNames := by
  obtain ⟨css, filename, sheet, exports, hread, hsheet, hclassNames, hnodup, hexports⟩ :=
    exists_exports hs hscope
  obtain ⟨rfl, rfl⟩ : s.path = p ∧ filename = outputPath p := by
    have hfound := (value_compile (value_findSource_of_isFile hfile)).symm.trans hs
    cases comes_iff.mpr hfound with
    | compiled hasCss transformed =>
      obtain ⟨-, hname⟩ := Prod.mk.inj
        (Except.ok.inj (Except.ok.inj (hread.symm.trans (readCss_of_hasCss hasCss))))
      exact ⟨rfl, hname.trans (eq_outputPath_of_hasCss hasCss hscope)⟩
  refine ⟨sheet, hsheet, fun k v hmem => ?_⟩
  rw [hclassNames, mem_ofExports_iff hnodup] at hmem
  obtain ⟨⟨x, e⟩, he, hkey, hvalue, -⟩ := hmem
  have hexported := (hexports x).symm.trans ((Text.lookup?_eq_some_iff hnodup).mpr he)
  have hv := eq_value_of_exported (v := v) (by rw [hexported, Option.map_some, hvalue])
  exact ⟨x, _, hkey, hv, fun hspace => hv ▸ firstName_value hspace⟩

/-- **Hashed class names are unique across files**, but for siblings.

Let two stylesheets be compiled whose class names are scoped and hashed, and let their output
paths not have the same mark by accident. Then all that the class maps have are names of the two
scopings, and these have no name in common exactly if the output paths are different. Where they
are not, the two files are one in either language, and every local name has one scoped name in
both. -/
theorem compile_hashed_disjoint {c : Config} {draws draws' : Sass.Draws} {fs : FileSystem}
    {p q : Path} {s t : CompiledStylesheet} (hc : c.classNaming = .hashed) (hp : fs.isFile p = true)
    (hq : fs.isFile q = true) (hs : (compile c draws fs p).value = .ok s)
    (hscope : s.scope = .scoped)
    (ht : (compile c draws' fs q).value = .ok t) (htscope : t.scope = .scoped)
    (hmark : Hash.mark (outputPath p) = Hash.mark (outputPath q) → outputPath p = outputPath q) :
    ∃ scoping sheet scoping' sheet', scopedSheet? c draws fs p = some (scoping, sheet)
      ∧ scopedSheet? c draws' fs q = some (scoping', sheet')
      ∧ HasNames c.localsConvention scoping s.classNames
      ∧ HasNames c.localsConvention scoping' t.classNames
      ∧ (outputPath p ≠ outputPath q ↔ ∀ x y, scoping.scopedName x ≠ scoping'.scopedName y)
      ∧ (outputPath p = outputPath q → scoping = scoping'
        ∧ (p = q ∨ (isSass p = true ∨ isSass q = true) ∧ compiledPath p = compiledPath q)) := by
  obtain ⟨sheet, hsheet, hnames⟩ := exists_hasNames hp hs hscope
  obtain ⟨sheet', hsheet', hnames'⟩ := exists_hasNames hq ht htscope
  rw [hc] at hsheet hsheet' hnames hnames'
  refine ⟨_, sheet, _, sheet', hsheet, hsheet', hnames, hnames',
    ⟨fun hne x y h => hne (hmark (Css.Scoping.mark_eq_of_scopedName_eq h)), fun h heq => ?_⟩,
    fun heq => ⟨by rw [heq], ?_⟩⟩
  · exact h [] [] (by rw [heq])
  · exact or_iff_not_imp_left.mpr fun hne => sibling_of_outputPath_eq hne heq

/-- A project with one stylesheet in both languages, and with another one of that stem. -/
def twofold : FileSystem where
  nodes := [(["app".toList], .directory), (["app".toList, "y".toList], .directory),
    (["app".toList, "x.module.css".toList], .file (Text.utf8 ".a\x7bcomposes:b\x7d".toList)),
    (["app".toList, "x.module.scss".toList], .file (Text.utf8 ".a\x7bcomposes:c\x7d".toList)),
    (["app".toList, "y".toList, "x.module.css".toList],
      .file (Text.utf8 ".a\x7bcomposes:b\x7d".toList))]

/-- The source and the CSS beside it have their class names in common. -/
theorem exists_value_compile_twofold :
    (∃ s, (compile {} Sass.noughts twofold "/app/x.module.scss".toList).value = .ok s
        ∧ s.path = "/app/x.module.scss".toList ∧ s.scope = .scoped
        ∧ s.classNames = [("a".toList, "x-module__a___r_n-va x-module__c___r_n-va".toList)])
      ∧ ∃ s, (compile {} Sass.noughts twofold "/app/x.module.css".toList).value = .ok s
        ∧ s.path = "/app/x.module.css".toList ∧ s.scope = .scoped
        ∧ s.classNames = [("a".toList, "x-module__a___r_n-va x-module__b___r_n-va".toList)] :=
  ⟨@exists_value_compile_of_classes _ _ _ _ (.ofNaming .hashed "/app/x.module.css".toList)
      [("a".toList, [.composes ["c".toList] none false ⟨1, 12⟩])] _
      (by decide +kernel) (by decide) (by decide +kernel) (by decide +kernel),
    @exists_value_compile_of_classes _ _ _ _ (.ofNaming .hashed "/app/x.module.css".toList)
      [("a".toList, [.composes ["b".toList] none false ⟨0, 13⟩])] _
      (by decide +kernel) (by decide) (by decide +kernel) (by decide +kernel)⟩

/-- **The law at two directories**: a source and the CSS of the same stem in another directory
have no name in common. -/
theorem compile_hashed_disjoint_twofold :
    ∃ s t, (compile {} Sass.noughts twofold "/app/x.module.scss".toList).value = .ok s
      ∧ (compile {} Sass.noughts twofold "/app/y/x.module.css".toList).value = .ok t
      ∧ s.scope = .scoped ∧ t.scope = .scoped
      ∧ ∃ scoping sheet scoping' sheet',
        scopedSheet? {} Sass.noughts twofold "/app/x.module.scss".toList = some (scoping, sheet)
          ∧ scopedSheet? {} Sass.noughts twofold "/app/y/x.module.css".toList
            = some (scoping', sheet')
          ∧ ∀ x y, scoping.scopedName x ≠ scoping'.scopedName y := by
  obtain ⟨s, hs, -, hscope, -⟩ := exists_value_compile_twofold.1
  obtain ⟨t, ht, -, htscope, -⟩ : ∃ t,
      (compile {} Sass.noughts twofold "/app/y/x.module.css".toList).value = .ok t
        ∧ t.path = "/app/y/x.module.css".toList ∧ t.scope = .scoped
        ∧ t.classNames = [("a".toList, "x-module__a___8_P04W x-module__b___8_P04W".toList)] :=
    @exists_value_compile_of_classes _ _ _ _ (.ofNaming .hashed "/app/y/x.module.css".toList)
      [("a".toList, [.composes ["b".toList] none false ⟨0, 13⟩])] _
      (by decide +kernel) (by decide) (by decide +kernel) (by decide +kernel)
  have hne : Hash.mark (outputPath "/app/x.module.scss".toList)
      ≠ Hash.mark (outputPath "/app/y/x.module.css".toList) := by decide +kernel
  obtain ⟨scoping, sheet, scoping', sheet', hsheet, hsheet', -, -, hdisjoint, -⟩ :=
    compile_hashed_disjoint rfl (by decide +kernel) (by decide +kernel) hs hscope ht htscope
      fun heq => absurd heq hne
  exact ⟨s, t, hs, ht, hscope, htscope, scoping, sheet, scoping', sheet', hsheet, hsheet',
    hdisjoint.mp fun heq => hne (congrArg Hash.mark heq)⟩

/-- **A source and the CSS beside it share their class names**, though they are two files. -/
theorem not_forall_disjoint :
    ¬∀ (c : Config) (draws : Sass.Draws) (fs : FileSystem) (p q : Path)
      (s t : CompiledStylesheet),
      c.classNaming = .hashed → p ≠ q → fs.isFile p = true → fs.isFile q = true →
      (compile c draws fs p).value = .ok s → s.scope = .scoped →
      (compile c draws fs q).value = .ok t → t.scope = .scoped →
      (Hash.mark (outputPath p) = Hash.mark (outputPath q) → outputPath p = outputPath q) →
      ∀ k v k' v', (k, v) ∈ s.classNames → (k', v') ∈ t.classNames →
        firstName v ≠ firstName v' := by
  intro h
  obtain ⟨⟨s, hs, -, hscope, hm⟩, t, ht, -, htscope, hm'⟩ := exists_value_compile_twofold
  have hnames := h {} Sass.noughts twofold _ _ s t rfl (by decide) (by decide +kernel)
    (by decide +kernel) hs hscope ht htscope (fun _ => by decide)
  rw [hm, hm'] at hnames
  exact hnames _ _ _ _ List.mem_cons_self List.mem_cons_self (by decide)

end Stylesheet

end ModuleHooks
