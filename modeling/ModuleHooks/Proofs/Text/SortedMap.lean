import Mathlib
import ModuleHooks.Text.Basic
/-!
# Maps sorted by key

A map is kept as a list of pairs in the order of their keys, and `Text.insertSorted` puts a
pair where it belongs. What such a map *is* can be told from `Text.lookup?` alone: an
insertion changes the value of one key and of no other (`lookup?_insertSorted`), and two
sorted lists with the same values are the same list (`eq_of_lookup?_eq`). So where pairs are
inserted one after the other, the last one with a key decides what the key stands for
(`lookup?_foldl_insertSorted`), and nothing else about their order is left in the result.
-/

namespace ModuleHooks.Text

variable {α β : Type}

/-! ## The order of texts -/

/-- **The order of code points** is the lexicographic order of the library. -/
theorem lt_iff {s t : Text} : lt s t = true ↔ s < t := by
  induction s generalizing t with
  | nil =>
    cases t with
    | nil => exact iff_of_false Bool.false_ne_true (lt_irrefl [])
    | cons b t => exact iff_of_true rfl (List.nil_lt_cons b t)
  | cons a s ih =>
    cases t with
    | nil => exact iff_of_false Bool.false_ne_true (List.not_lt_nil (a :: s))
    | cons b t =>
      rw [lt, List.cons_lt_cons_iff]
      by_cases hab : a = b
      · rw [if_pos hab, ih, hab]
        exact ⟨fun h => Or.inr ⟨rfl, h⟩, fun h => (h.resolve_left (lt_irrefl b)).2⟩
      · rw [if_neg hab, decide_eq_true_iff]
        exact ⟨fun h => Or.inl (UInt32.lt_iff_toNat_lt.mpr h),
          fun h => UInt32.lt_iff_toNat_lt.mp (h.resolve_right fun h => hab h.1)⟩

/-! ## Lookups -/

theorem lookup?_nil (k : Text) : lookup? k ([] : List (Text × α)) = none := rfl

theorem lookup?_cons (k : Text) (e : Text × α) (m : List (Text × α)) :
    lookup? k (e :: m) = if e.1 = k then some e.2 else lookup? k m := by
  by_cases h : e.1 = k
  · rw [if_pos h, lookup?, List.find?_cons_of_pos (by simpa using h), Option.map_some]
  · rw [if_neg h, lookup?, List.find?_cons_of_neg (by simpa using h), lookup?]

/-- The values of a map may be changed before or after the lookup. -/
theorem lookup?_map (value : Text → β → α) (k : Text) (m : List (Text × β)) :
    lookup? k (m.map fun e => (e.1, value e.1 e.2)) = (lookup? k m).map (value k) := by
  induction m with
  | nil => rfl
  | cons e m ih =>
    rw [List.map_cons, lookup?_cons, lookup?_cons, ih]
    dsimp only
    split_ifs with hk
    · rw [hk, Option.map_some]
    · rfl

/-- What is not found in one part of a map is looked up in the other. -/
theorem lookup?_append (k : Text) (m m' : List (Text × α)) :
    lookup? k (m ++ m') = (lookup? k m).or (lookup? k m') := by
  induction m with
  | nil => rfl
  | cons e m ih =>
    rw [List.cons_append, lookup?_cons, lookup?_cons, ih]
    split_ifs <;> rfl

/-- **An insertion changes the value of its key** and of no other. -/
theorem lookup?_insertSorted (k key : Text) (value : α) (m : List (Text × α)) :
    lookup? k (insertSorted key value m) = if key = k then some value else lookup? k m := by
  induction m with
  | nil => rw [insertSorted, lookup?_cons]
  | cons e m ih =>
    obtain ⟨k', v⟩ := e
    rw [insertSorted]
    by_cases hkey : key = k'
    · rw [if_pos hkey, lookup?_cons, lookup?_cons, hkey]
      dsimp only
      split_ifs <;> rfl
    rw [if_neg hkey]
    split_ifs with hlt hk hk
    · rw [lookup?_cons, if_pos hk]
    · rw [lookup?_cons, if_neg hk]
    · rw [lookup?_cons, ih, if_pos hk, if_neg (fun h => hkey (hk.trans h.symm))]
    · rw [lookup?_cons, ih, if_neg hk, lookup?_cons]

/-- **The last one wins**: after pairs have been inserted one by one, the value of a key is
that of the last pair with the key. -/
theorem lookup?_foldl_insertSorted (key : β → Text) (value : β → α) (k : Text) (l : List β)
    (m : List (Text × α)) :
    lookup? k (l.foldl (fun m e => insertSorted (key e) (value e) m) m)
      = ((l.reverse.find? fun e => key e == k).map value).or (lookup? k m) := by
  induction l using List.reverseRecOn with
  | nil => rfl
  | append_singleton l e ih =>
    rw [List.foldl_append, List.foldl_cons, List.foldl_nil, lookup?_insertSorted, ih,
      List.reverse_concat]
    by_cases h : key e = k
    · rw [if_pos h, List.find?_cons_of_pos (by simpa using h)]
      rfl
    · rw [if_neg h, List.find?_cons_of_neg (by simpa using h)]

/-! ## Sorted maps -/

/-- **A map in the order of its keys**, each of them once. -/
def IsSorted (m : List (Text × α)) : Prop := m.Pairwise fun e e' => e.1 < e'.1

theorem isSorted_nil : IsSorted ([] : List (Text × α)) := List.Pairwise.nil

theorem mem_of_mem_insertSorted {key : Text} {value : α} {m : List (Text × α)} {e : Text × α}
    (h : e ∈ insertSorted key value m) : e = (key, value) ∨ e ∈ m := by
  induction m with
  | nil => exact Or.inl (List.mem_singleton.mp h)
  | cons e' m ih =>
    obtain ⟨k, v⟩ := e'
    rw [insertSorted] at h
    split_ifs at h
    · exact (List.mem_cons.mp h).imp_right (List.mem_cons_of_mem _)
    · exact List.mem_cons.mp h
    · rcases List.mem_cons.mp h with h | h
      · exact Or.inr (h ▸ List.mem_cons_self)
      · exact (ih h).imp_right (List.mem_cons_of_mem _)

/-- An insertion keeps the order. -/
theorem IsSorted.insertSorted {m : List (Text × α)} (h : IsSorted m) (key : Text) (value : α) :
    IsSorted (insertSorted key value m) := by
  induction m with
  | nil => exact List.pairwise_singleton _ _
  | cons e m ih =>
    obtain ⟨k, v⟩ := e
    obtain ⟨hhead, htail⟩ := List.pairwise_cons.mp h
    rw [Text.insertSorted]
    split_ifs with hkey hlt
    · subst hkey
      exact List.pairwise_cons.mpr ⟨hhead, htail⟩
    · have hlt : key < k := lt_iff.mp hlt
      refine List.pairwise_cons.mpr ⟨?_, h⟩
      exact List.forall_mem_cons.mpr ⟨hlt, fun e he => hlt.trans (hhead e he)⟩
    · have hgt : k < key :=
        lt_of_le_of_ne (not_lt.mp fun h => hlt (lt_iff.mpr h)) (Ne.symm hkey)
      refine List.pairwise_cons.mpr ⟨fun e he => ?_, ih htail⟩
      rcases mem_of_mem_insertSorted he with rfl | he
      · exact hgt
      · exact hhead e he

theorem isSorted_foldl_insertSorted (key : β → Text) (value : β → α) (l : List β)
    {m : List (Text × α)} (h : IsSorted m) :
    IsSorted (l.foldl (fun m e => insertSorted (key e) (value e) m) m) := by
  induction l generalizing m with
  | nil => exact h
  | cons e l ih => exact ih (h.insertSorted (key e) (value e))

/-- **What is looked up is what is in the list**, where each key is there once. -/
theorem lookup?_eq_some_iff {m : List (Text × α)} (h : (m.map Prod.fst).Nodup) {k : Text} {v : α} :
    lookup? k m = some v ↔ (k, v) ∈ m := by
  induction m with
  | nil => exact iff_of_false (fun h => by cases h) List.not_mem_nil
  | cons e m ih =>
    obtain ⟨k', v'⟩ := e
    rw [List.map_cons, List.nodup_cons] at h
    rw [lookup?_cons, List.mem_cons, Prod.mk.injEq]
    by_cases hk : k' = k
    · have hmem : (k, v) ∉ m := fun hmem => h.1 (List.mem_map.mpr ⟨(k, v), hmem, hk.symm⟩)
      rw [if_pos hk, Option.some_inj]
      exact ⟨fun hv => Or.inl ⟨hk.symm, hv.symm⟩, fun hv => (hv.resolve_right hmem).2.symm⟩
    · rw [if_neg hk, ih h.2]
      exact ⟨Or.inr, fun hv => hv.resolve_left fun hv => hk hv.1.symm⟩

theorem IsSorted.nodup {m : List (Text × α)} (h : IsSorted m) : (m.map Prod.fst).Nodup :=
  List.pairwise_map.mpr (h.imp fun hlt => ne_of_lt hlt)

/-- The keys of a map are those that are looked up with success. -/
theorem mem_keys_iff {m : List (Text × α)} {k : Text} :
    k ∈ m.map Prod.fst ↔ (lookup? k m).isSome := by
  induction m with
  | nil => exact iff_of_false List.not_mem_nil Bool.false_ne_true
  | cons e m ih =>
    rw [List.map_cons, List.mem_cons, lookup?_cons, ih]
    split_ifs with hk
    · exact iff_of_true (Or.inl hk.symm) rfl
    · exact or_iff_right (Ne.symm hk)

/-- **Two sorted maps with the same pairs are the same list.** -/
theorem IsSorted.eq_of_perm {m m' : List (Text × α)} (h : IsSorted m) (h' : IsSorted m')
    (hperm : m.Perm m') : m = m' :=
  hperm.eq_of_pairwise (fun _ _ _ _ hlt hgt => absurd hlt hgt.asymm) h h'

/-- **Two sorted maps with the same values are the same list.** -/
theorem eq_of_lookup?_eq {m m' : List (Text × α)} (h : IsSorted m) (h' : IsSorted m')
    (heq : ∀ k, lookup? k m = lookup? k m') : m = m' := by
  refine h.eq_of_perm h' ((List.perm_ext_iff_of_nodup h.nodup.of_map h'.nodup.of_map).mpr ?_)
  intro e
  rw [← lookup?_eq_some_iff h.nodup, heq, lookup?_eq_some_iff h'.nodup]

/-- Where each key is there once, the order of the pairs does not matter to a lookup. -/
theorem lookup?_congr_of_perm {m m' : List (Text × α)} (hperm : m.Perm m')
    (h : (m.map Prod.fst).Nodup) (k : Text) : lookup? k m = lookup? k m' := by
  have h' : (m'.map Prod.fst).Nodup := (hperm.map Prod.fst).nodup_iff.mp h
  refine Option.ext (fun v => ?_)
  rw [lookup?_eq_some_iff h, lookup?_eq_some_iff h', hperm.mem_iff]

/-- **The last pair that is accepted** is the accepted one with the greatest key. -/
theorem IsSorted.find?_reverse_eq_some_iff {m : List (Text × α)} (h : IsSorted m)
    {p : Text × α → Bool} {e : Text × α} :
    m.reverse.find? p = some e ↔ e ∈ m ∧ p e = true ∧ ∀ e' ∈ m, p e' = true → ¬e.1 < e'.1 := by
  have hreverse : m.reverse.Pairwise fun e e' => e'.1 < e.1 := List.pairwise_reverse.mpr h
  rw [List.find?_eq_some_iff_append]
  constructor
  · rintro ⟨he, before, after, hsplit, hbefore⟩
    have hmem : ∀ {e'}, e' ∈ m ↔ e' ∈ before ++ e :: after := fun {e'} => by
      rw [← hsplit, List.mem_reverse]
    rw [hsplit, List.pairwise_append, List.pairwise_cons] at hreverse
    refine ⟨hmem.mpr (by simp), he, fun e' he' hp => ?_⟩
    rcases List.mem_append.mp (hmem.mp he') with hin | hin
    · have := hbefore e' hin
      rw [hp] at this
      cases this
    · rcases List.mem_cons.mp hin with rfl | hin
      · exact lt_irrefl _
      · exact (hreverse.2.1.1 e' hin).asymm
  · rintro ⟨hmem, he, hmax⟩
    obtain ⟨before, after, hsplit⟩ := List.append_of_mem (List.mem_reverse.mpr hmem)
    refine ⟨he, before, after, hsplit, fun e' he' => ?_⟩
    rw [hsplit, List.pairwise_append] at hreverse
    have hlt : e.1 < e'.1 := hreverse.2.2 e' he' e List.mem_cons_self
    have hin : e' ∈ m := List.mem_reverse.mp (hsplit ▸ List.mem_append_left _ he')
    rw [Bool.not_eq_true']
    exact Bool.eq_false_of_not_eq_true fun hp => hmax e' hin hp hlt

/-- A sorted map is built by inserting its own pairs. -/
theorem IsSorted.foldl_insertSorted {m : List (Text × β)} (h : IsSorted m) (value : β → α) :
    m.foldl (fun m e => Text.insertSorted e.1 (value e.2) m) []
      = m.map fun e => (e.1, value e.2) := by
  refine eq_of_lookup?_eq (isSorted_foldl_insertSorted _ _ m isSorted_nil)
    (List.pairwise_map.mpr h) (fun k => ?_)
  have hreverse : lookup? k m.reverse = lookup? k m :=
    (lookup?_congr_of_perm m.reverse_perm.symm h.nodup k).symm
  rw [lookup?_map fun _ => value, ← hreverse, lookup?_foldl_insertSorted, lookup?_nil,
    Option.or_none, lookup?, Option.map_map]
  rfl

end ModuleHooks.Text
