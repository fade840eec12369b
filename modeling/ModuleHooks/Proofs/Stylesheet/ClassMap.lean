import ModuleHooks.Proofs.Text.Utf8
import ModuleHooks.Proofs.Text.SortedMap
import ModuleHooks.Stylesheet.Compiler
/-!
# Class maps and the order of exports

The exports of a stylesheet come in no order that could be relied on, and in camel case
several local names may come to one key. Nevertheless a class map is determined by the
exports as a set: they are sorted first, and of those with one key the last one in the order
of bytes has its value in the map (`mem_ofExports_iff`).

Sorting loses nothing (`mem_sorted_iff`), so a class map under local names is the sorted list
of exports with their values (`ofExports_asIs`), and that of camel case is what comes of
inserting its pairs under their new keys. Therefore the two conventions can be told from each
other without the exports, and in particular without compiling the stylesheet again
(`transform_camelCaseOnly`).
-/

namespace ModuleHooks

namespace ClassMap

/-- **The exports in the order of their local names.** -/
def sorted (exports : Css.Exports) : Css.Exports :=
  exports.foldl (fun l e => Text.insertSorted e.1 e.2 l) []

/-- A class map under new keys: its pairs are inserted one after the other. -/
def renamed (rename : Text → Text) (m : ClassMap) : ClassMap :=
  m.foldl (fun n e => Text.insertSorted (rename e.1) e.2 n) []

variable {exports : Css.Exports}

theorem isSorted_sorted (exports : Css.Exports) : Text.IsSorted (sorted exports) :=
  Text.isSorted_foldl_insertSorted _ _ exports Text.isSorted_nil

theorem isSorted_ofExports (convention : LocalsConvention) (exports : Css.Exports) :
    Text.IsSorted (ofExports convention exports) :=
  Text.isSorted_foldl_insertSorted _ _ (sorted exports) Text.isSorted_nil

/-- **Sorting loses nothing** where every local name is exported once. -/
theorem mem_sorted_iff (h : (exports.map Prod.fst).Nodup) {e : Text × Css.Export} :
    e ∈ sorted exports ↔ e ∈ exports := by
  have hreverse : (exports.reverse.map Prod.fst).Nodup :=
    (exports.reverse_perm.map Prod.fst).nodup_iff.mpr h
  rw [← Text.lookup?_eq_some_iff (isSorted_sorted exports).nodup, sorted,
    Text.lookup?_foldl_insertSorted, Text.lookup?_nil, Option.or_none]
  exact (Text.lookup?_eq_some_iff hreverse).trans List.mem_reverse

/-- The order in which exports are listed does not matter. -/
theorem sorted_congr_of_perm {exports' : Css.Exports} (hperm : exports'.Perm exports)
    (h : (exports.map Prod.fst).Nodup) : sorted exports' = sorted exports := by
  have h' : (exports'.map Prod.fst).Nodup := (hperm.map Prod.fst).nodup_iff.mpr h
  refine (isSorted_sorted exports').eq_of_perm (isSorted_sorted exports) ?_
  refine (List.perm_ext_iff_of_nodup (isSorted_sorted exports').nodup.of_map
    (isSorted_sorted exports).nodup.of_map).mpr (fun e => ?_)
  rw [mem_sorted_iff h', mem_sorted_iff h, hperm.mem_iff]

/-- The value of a key is that of the last export in order that comes to it. -/
theorem lookup?_ofExports (convention : LocalsConvention) (exports : Css.Exports) (k : Text) :
    Text.lookup? k (ofExports convention exports)
      = ((sorted exports).reverse.find? fun e => key convention e.1 == k).map
          fun e => value e.2 := by
  show Text.lookup? k ((sorted exports).foldl _ []) = _
  rw [Text.lookup?_foldl_insertSorted, Text.lookup?_nil, Option.or_none]

/-- **A pair of a class map** is the value of the export with the greatest local name among
those that come to its key. -/
theorem mem_ofExports_iff (h : (exports.map Prod.fst).Nodup) (convention : LocalsConvention)
    {k v : Text} :
    (k, v) ∈ ofExports convention exports ↔
      ∃ e ∈ exports, key convention e.1 = k ∧ value e.2 = v
        ∧ ∀ e' ∈ exports, key convention e'.1 = k → ¬e.1 < e'.1 := by
  rw [← Text.lookup?_eq_some_iff (isSorted_ofExports convention exports).nodup,
    lookup?_ofExports, Option.map_eq_some_iff]
  refine exists_congr (fun e => ?_)
  rw [(isSorted_sorted exports).find?_reverse_eq_some_iff, beq_iff_eq]
  simp only [mem_sorted_iff h, beq_iff_eq]
  exact ⟨fun ⟨⟨hmem, hkey, hmax⟩, hvalue⟩ => ⟨hmem, hkey, hvalue, hmax⟩,
    fun ⟨hmem, hkey, hvalue, hmax⟩ => ⟨⟨hmem, hkey, hmax⟩, hvalue⟩⟩

/-- **The keys of a class map** are what the local names come to. -/
theorem mem_keys_ofExports_iff (h : (exports.map Prod.fst).Nodup) (convention : LocalsConvention)
    {k : Text} :
    k ∈ (ofExports convention exports).map Prod.fst ↔
      ∃ e ∈ exports, key convention e.1 = k := by
  rw [Text.mem_keys_iff, lookup?_ofExports, Option.isSome_map, List.find?_isSome]
  refine exists_congr (fun e => ?_)
  rw [List.mem_reverse, mem_sorted_iff h, beq_iff_eq]

/-- As authored, the class map lists the values of the sorted exports. -/
theorem ofExports_asIs (exports : Css.Exports) :
    ofExports .asIs exports = (sorted exports).map fun e => (e.1, value e.2) :=
  (isSorted_sorted exports).foldl_insertSorted value

/-- **The class map in camel case is the authored one under new keys.** -/
theorem ofExports_camelCaseOnly (exports : Css.Exports) :
    ofExports .camelCaseOnly exports = renamed camelCase (ofExports .asIs exports) := by
  rw [ofExports_asIs, renamed, List.foldl_map]
  rfl

end ClassMap

/-- **The convention only renames the class map**: the CSS, or the failure, is the same. -/
theorem Stylesheet.transform_camelCaseOnly (scope : Scope) (naming : ClassNaming)
    (css : Text) (filename : Path) :
    transform scope naming .camelCaseOnly css filename
      = (transform scope naming .asIs css filename).map fun output =>
          (output.1, ClassMap.renamed camelCase output.2) := by
  unfold transform
  dsimp only
  split
  · rw [ClassMap.ofExports_camelCaseOnly]
    rfl
  · rfl

namespace ClassMap

/-- **A class map is determined by the exports as a set**, and collisions are resolved by the
order of bytes. For exports with distinct local names:

* they may be listed in any order, for either convention;
* the keys are what the local names come to, each of them once and in increasing order;
* the value of a key is the scoped name and the composed names of the export whose local name
  is the greatest of those that come to the key;
* the class map in camel case is the authored one with its pairs inserted, in their order,
  under their new keys; so it is for the exports of a stylesheet, whose CSS, or failure, is the
  same for both conventions. -/
theorem ofExports_collisions {exports : Css.Exports} (hnames : (exports.map Prod.fst).Nodup) :
    (∀ convention (exports' : Css.Exports), exports'.Perm exports →
        ofExports convention exports' = ofExports convention exports)
      ∧ (∀ convention k, k ∈ (ofExports convention exports).map Prod.fst ↔
        k ∈ exports.map fun e => key convention e.1)
      ∧ (∀ convention, (ofExports convention exports).Pairwise fun e e' =>
        Text.utf8 e.1 < Text.utf8 e'.1)
      ∧ (∀ convention k v, (k, v) ∈ ofExports convention exports ↔
        ∃ name e, (name, e) ∈ exports ∧ key convention name = k
          ∧ v = Text.join " " (e.name :: e.composes.map Css.Reference.name)
          ∧ ∀ name' e', (name', e') ∈ exports → key convention name' = k →
            ¬Text.utf8 name < Text.utf8 name')
      ∧ ofExports .camelCaseOnly exports
        = (ofExports .asIs exports).foldl (fun m e => Text.insertSorted (camelCase e.1) e.2 m) []
      ∧ ∀ scope naming css filename,
        Stylesheet.transform scope naming .camelCaseOnly css filename
          = (Stylesheet.transform scope naming .asIs css filename).map fun output => (output.1,
              output.2.foldl (fun m e => Text.insertSorted (camelCase e.1) e.2 m) []) := by
  refine ⟨fun convention exports' hperm => ?_, fun convention k => ?_, fun convention => ?_,
    fun convention k v => ?_, ofExports_camelCaseOnly exports, Stylesheet.transform_camelCaseOnly⟩
  · show (sorted exports').foldl _ [] = (sorted exports).foldl _ []
    rw [sorted_congr_of_perm hperm hnames]
  · rw [mem_keys_ofExports_iff hnames, List.mem_map]
  · exact (isSorted_ofExports convention exports).imp Text.utf8_lt_utf8_iff.mpr
  · rw [mem_ofExports_iff hnames]
    simp only [Prod.exists, Prod.forall, Text.utf8_lt_utf8_iff, @eq_comm _ v]
    rfl

/-- Two of three classes come to one key, which the greater local name has in either order. -/
theorem ofExports_collisions_hyphens :
    let exports : Css.Exports :=
      [("main_nav".toList, { name := "x__main_nav".toList, composes := [.global "wide".toList] }),
        ("main-nav".toList, { name := "x__main-nav".toList }),
        ("bar".toList, { name := "x__bar".toList })]
    ofExports .camelCaseOnly exports.reverse = ofExports .camelCaseOnly exports
      ∧ ("mainNav".toList, "x__main_nav wide".toList) ∈ ofExports .camelCaseOnly exports := by
  intro exports
  obtain ⟨hperm, -, -, hmem, -, -⟩ := @ofExports_collisions exports (by decide)
  refine ⟨hperm _ _ exports.reverse_perm, (hmem _ _ _).mpr
    ⟨_, _, List.mem_cons_self, by decide, by decide, fun name e h hkey => ?_⟩⟩
  simp only [exports, List.mem_cons, List.not_mem_nil, or_false, Prod.mk.injEq] at h
  rcases h with ⟨rfl, -⟩ | ⟨rfl, -⟩ | ⟨rfl, -⟩
  · decide
  · decide
  · exact absurd hkey (by decide)

end ClassMap

end ModuleHooks
