import Mathlib
import ModuleHooks.Toml.Document
/-!
# No name twice

A document that is read has no two members of one name (`uniqueNames_of_parse`). So it does not
matter whether its members are gone through in the order in which they are written, or looked up
by their names.

A name is refused where it would enter a table that has it, and there are three ways in: a line of
the current table, a table that a longer key or header implies, and a table that is closed. The
last one is the delicate one, since between the header that opened the table and the next one,
which closes it, nothing looks whether the name is still free. It is, because nothing enters the
root in the meantime; this is what a draft has to remember (`Draft.WellNamed`).
-/

namespace ModuleHooks.Toml

variable {t t' : Table} {k : Key} {name : Text} {v : Node}

/-- What a success is made of. -/
theorem exists_of_map_eq_ok {ε α β : Type} {f : α → β} {x : Except ε α} {b : β}
    (h : x.map f = .ok b) : ∃ a, x = .ok a ∧ f a = b := by
  cases x with
  | error why => cases h
  | ok a => exact ⟨a, rfl, Except.ok.inj h⟩

theorem exists_of_bind_eq_ok {ε α β : Type} {x : Except ε α} {f : α → Except ε β} {b : β}
    (h : x >>= f = .ok b) : ∃ a, x = .ok a ∧ f a = .ok b := by
  cases x with
  | error why => cases h
  | ok a => exact ⟨a, rfl, h⟩

/-! ## Tables -/

/-- **A table without a name that stands there twice.** -/
def TableOf.UniqueNames (t : Table) : Prop := (t.members.map (·.1.name)).Nodup

namespace TableOf

theorem get?_eq_none_iff : t.get? name = none ↔ name ∉ t.members.map (·.1.name) := by
  rw [get?, Option.map_eq_none_iff, List.find?_eq_none, List.mem_map]
  constructor
  · rintro h ⟨m, hm, rfl⟩
    exact h m hm (beq_self_eq_true _)
  · intro h m hm hname
    exact h ⟨m, hm, beq_iff_eq.mp hname⟩

/-- In a table without double names, what stands there is what is found. -/
theorem UniqueNames.get?_eq_some_iff (h : t.UniqueNames) :
    t.get? name = some v ↔ ∃ k, (k, v) ∈ t.members ∧ k.name = name := by
  rw [get?, Option.map_eq_some_iff]
  constructor
  · rintro ⟨⟨k, v⟩, hfind, rfl⟩
    exact ⟨k, List.mem_of_find?_eq_some hfind, by simpa using List.find?_some hfind⟩
  · rintro ⟨k, hmem, rfl⟩
    have hsome : (t.members.find? fun m => m.1.name == k.name).isSome :=
      List.find?_isSome.mpr ⟨(k, v), hmem, beq_self_eq_true _⟩
    obtain ⟨m, hfind⟩ := Option.isSome_iff_exists.mp hsome
    have hname : m.1.name = k.name := by simpa using List.find?_some hfind
    obtain rfl := List.inj_on_of_nodup_map h (List.mem_of_find?_eq_some hfind) hmem hname
    exact ⟨_, hfind, rfl⟩

theorem UniqueNames.append (h : t.UniqueNames) (hk : t.get? k.name = none) :
    (t.append k v).UniqueNames := by
  rw [UniqueNames, TableOf.append, List.map_append, List.map_singleton]
  exact List.Nodup.append h (List.nodup_singleton _)
    (List.disjoint_singleton.mpr (get?_eq_none_iff.mp hk))

theorem UniqueNames.replace (h : t.UniqueNames) (name : Text) (v : Node) :
    (t.replace name v).UniqueNames := by
  have hnames : (t.replace name v).members.map (·.1.name) = t.members.map (·.1.name) := by
    rw [TableOf.replace, List.map_map]
    refine List.map_congr_left fun m _ => ?_
    show (if m.1.name = name then (m.1, v) else m).1.name = m.1.name
    split_ifs <;> rfl
  rw [UniqueNames, hnames]
  exact h

theorem UniqueNames.erase (h : t.UniqueNames) (name : Text) : (t.erase name).UniqueNames :=
  List.Nodup.sublist (List.filter_sublist.map _) h

theorem get?_erase (t : Table) (name : Text) : (t.erase name).get? name = none := by
  rw [get?_eq_none_iff, List.mem_map]
  rintro ⟨m, hm, rfl⟩
  exact absurd (List.mem_filter.mp hm).2 (by simp)

/-- **A change at the end of a path** leaves the names of the table that it begins in unique, if
it does so where the path has no steps. -/
theorem UniqueNames.updateAt {inline dotted : Bool} {change : Table → Except Text Table}
    {done : List Text} {path : List Key} (h : t.UniqueNames)
    (hchange : path = [] → ∀ t', change t = .ok t' → t'.UniqueNames)
    (hupdate : Toml.updateAt inline dotted change done path t = .ok t') : t'.UniqueNames := by
  cases path with
  | nil =>
    rw [Toml.updateAt] at hupdate
    exact hchange rfl t' hupdate
  | cons k rest =>
    rw [Toml.updateAt] at hupdate
    split at hupdate
    · next hnone =>
      obtain ⟨child, -, rfl⟩ := exists_of_map_eq_ok hupdate
      exact h.append hnone
    · split_ifs at hupdate
      obtain ⟨child, -, rfl⟩ := exists_of_map_eq_ok hupdate
      exact h.replace k.name _
    · split at hupdate
      · obtain ⟨child, -, rfl⟩ := exists_of_map_eq_ok hupdate
        exact h.replace k.name _
      · cases hupdate
    · cases hupdate

/-- A new member has a new name. -/
theorem UniqueNames.insertMember {dotted : Bool} {table : Option (List Text)} (h : t.UniqueNames)
    (hinsert : Toml.insertMember dotted table k v t = .ok t') : t'.UniqueNames := by
  rw [Toml.insertMember] at hinsert
  split_ifs at hinsert with _ hfree
  cases hinsert
  exact h.append (Option.not_isSome_iff_eq_none.mp hfree)

/-- Going along a path and changing nothing may imply tables, with new names. -/
theorem UniqueNames.walked {path : List Key} {root : Table} (h : t.UniqueNames)
    (hwalk : Toml.updateAt false false (fun t => .ok t) [] path t = .ok root) :
    root.UniqueNames :=
  h.updateAt (fun _ _ hchange => Except.ok.inj hchange ▸ h) hwalk

end TableOf

/-! ## Drafts -/

namespace Draft

theorem eq_nil_of_splitPath {path : List Key} (h : splitPath path = none) : path = [] := by
  unfold splitPath at h
  split at h
  · next hnil => exact List.reverse_eq_nil_iff.mp hnil
  · cases h

theorem eq_concat_of_splitPath {path front : List Key} {last : Key}
    (h : splitPath path = some (front, last)) : path = front ++ [last] := by
  unfold splitPath at h
  split at h
  · cases h
  · next hcons =>
    cases h
    rw [← List.reverse_reverse path, hcons, List.reverse_cons]

/-- **A draft in which no name will stand twice**: none does, and the name of the current table is
still free in the root. -/
structure WellNamed (d : Draft) : Prop where
  root : d.root.UniqueNames
  current : d.path = [] → d.current.UniqueNames
  free : ∀ k, d.path = [k] → d.repeated = false → d.root.get? k.name = none

variable {d d' : Draft}

theorem wellNamed_empty : WellNamed {} where
  root := List.nodup_nil
  current _ := List.nodup_nil
  free _ h _ := absurd h nofun

/-- **The root after the current table is closed.** -/
theorem WellNamed.close (h : d.WellNamed) (hclose : d.close = .ok t) : t.UniqueNames := by
  unfold Draft.close at hclose
  split at hclose
  · next hpath =>
    cases hclose
    exact h.current (eq_nil_of_splitPath hpath)
  · next path last hpath =>
    refine h.root.updateAt (fun hnil t' hchange => ?_) hclose
    rw [hnil] at hpath hchange
    -- A table at the root: its name was free when it was opened, or it is one of several.
    by_cases hrepeated : d.repeated = true
    · rw [if_pos hrepeated] at hchange
      unfold addRepeated at hchange
      split at hchange
      · next hnone =>
        cases hchange
        exact h.root.append hnone
      · cases hchange
        exact h.root.replace last.name _
      · cases hchange
    · rw [if_neg hrepeated] at hchange
      cases hchange
      exact h.root.append
        (h.free last (eq_concat_of_splitPath hpath) (Bool.eq_false_of_not_eq_true hrepeated))

/-- A header is not empty, and if it is one name there is nothing to walk along. -/
theorem eq_nil_and_of_splitPath {header path : List Key} {last : Key}
    (h : splitPath header = some (path, last)) :
    header ≠ [] ∧ ∀ k, header = [k] → path = [] ∧ last = k := by
  rw [eq_concat_of_splitPath h]
  refine ⟨List.append_ne_nil_of_right_ne_nil path (List.cons_ne_nil last []), fun k hk => ?_⟩
  rcases List.append_eq_singleton_iff.mp hk with ⟨hnil, hk⟩ | ⟨-, hk⟩
  · exact ⟨hnil, List.head_eq_of_cons_eq hk⟩
  · cases hk

theorem WellNamed.openTable {span : Span} {header : List Key} (h : d.WellNamed)
    (hopen : d.openTable span header = .ok d') : d'.WellNamed := by
  obtain ⟨root, hclose, hopen⟩ := exists_of_bind_eq_ok hopen
  have hroot := h.close hclose
  split at hopen
  · cases hopen
    exact h
  · next path last hpath =>
    obtain ⟨hne, hhere⟩ := eq_nil_and_of_splitPath hpath
    obtain ⟨root, hwalk, hopen⟩ := exists_of_bind_eq_ok hopen
    have hroot := hroot.walked hwalk
    split at hopen
    · next hnone =>
      cases hopen
      refine ⟨hroot, fun hnil => absurd hnil hne, fun k hk _ => ?_⟩
      obtain ⟨rfl, rfl⟩ := hhere k hk
      exact hnone
    · -- An implied table leaves the root and is the current one from here on.
      split_ifs at hopen
      obtain ⟨rest, herase, hopen⟩ := exists_of_bind_eq_ok hopen
      cases hopen
      have hrest : rest.UniqueNames := hroot.updateAt
        (fun _ t' hchange => by cases hchange; exact hroot.erase last.name) herase
      refine ⟨hrest, fun hnil => absurd hnil hne, fun k hk _ => ?_⟩
      obtain ⟨rfl, rfl⟩ := hhere k hk
      cases herase
      exact TableOf.get?_erase root last.name
    · cases hopen

theorem WellNamed.openRepeated {span : Span} {header : List Key} (h : d.WellNamed)
    (hopen : d.openRepeated span header = .ok d') : d'.WellNamed := by
  obtain ⟨root, hclose, hopen⟩ := exists_of_bind_eq_ok hopen
  have hroot := h.close hclose
  split at hopen
  · cases hopen
    exact h
  · next path last hpath =>
    obtain ⟨hne, -⟩ := eq_nil_and_of_splitPath hpath
    obtain ⟨root, hwalk, hopen⟩ := exists_of_bind_eq_ok hopen
    have hnext : ∀ current : Table,
        WellNamed { root, current, path := header, repeated := true } := fun current =>
      ⟨hroot.walked hwalk, fun hnil => absurd hnil hne, fun _ _ hone => absurd hone nofun⟩
    split at hopen
    · cases hopen
      exact hnext _
    · cases hopen
      exact hnext _
    · cases hopen

theorem WellNamed.addPair {key : List Key} (h : d.WellNamed) (hadd : d.addPair key v = .ok d') :
    d'.WellNamed := by
  unfold Draft.addPair at hadd
  split at hadd
  · cases hadd
    exact h
  · next path last hpath =>
    obtain ⟨current, hupdate, rfl⟩ := exists_of_map_eq_ok hadd
    have hmembers : (extendSpan d.current v).members = d.current.members := by
      unfold extendSpan
      split <;> rfl
    refine ⟨h.root, fun hnil => ?_, h.free⟩
    have hcurrent : (extendSpan d.current v).UniqueNames := by
      rw [TableOf.UniqueNames, hmembers]
      exact h.current hnil
    exact hcurrent.updateAt (fun _ _ hinsert => hcurrent.insertMember hinsert) hupdate

end Draft

/-! ## Readers -/

namespace Reader

/-- **What all results of a reader satisfy.** -/
def Yields {α : Type} (p : Reader α) (P : α → Prop) : Prop :=
  ∀ i a next, p i = .ok a next → P a

variable {α β : Type} {P : α → Prop} {Q : β → Prop} {p : Reader α}

theorem yields_give {a : α} (h : P a) : (give a).Yields P := by
  intro i b next hp
  cases hp
  exact h

theorem Yields.andThen {f : α → Reader β} (h : p.Yields P) (hf : ∀ a, P a → (f a).Yields Q) :
    (andThen p f).Yields Q := by
  intro i b next hp
  unfold Reader.andThen at hp
  split at hp
  · next a rest hp' => exact hf a (h i a rest hp') rest b next hp
  · cases hp

/-- What is read first need not be known. -/
theorem yields_andThen {f : α → Reader β} (hf : ∀ a, (f a).Yields Q) : (andThen p f).Yields Q :=
  Yields.andThen (P := fun _ => True) (fun _ _ _ _ => trivial) fun a _ => hf a

theorem Yields.map {f : α → β} (h : p.Yields fun a => Q (f a)) : (map f p).Yields Q :=
  h.andThen fun _ ha => yields_give ha

theorem Yields.before {q : Reader β} (h : p.Yields P) : (before p q).Yields P :=
  h.andThen fun _ ha => yields_andThen fun _ => yields_give ha

theorem Yields.committed (h : p.Yields P) : (committed p).Yields P := by
  intro i a next hp
  unfold Reader.committed at hp
  split at hp
  · cases hp
  · exact h i a next hp

theorem Yields.labelled {label : Text} (h : p.Yields P) : (labelled label p).Yields P := by
  intro i a next hp
  unfold Reader.labelled at hp
  split at hp
  · cases hp
  · exact h i a next hp

theorem Yields.checked {f : α → Except Text β} (h : p.Yields P)
    (hf : ∀ a b, P a → f a = .ok b → Q b) : (checked f p).Yields Q := by
  intro i b next hp
  unfold Reader.checked at hp
  split at hp
  · next a rest hp' =>
    split at hp
    · next hb =>
      cases hp
      exact hf a _ (h i a _ hp') hb
    · cases hp
  · cases hp

theorem yields_checked {f : α → Except Text β} (hf : ∀ a b, f a = .ok b → Q b) :
    (checked f p).Yields Q :=
  Yields.checked (P := fun _ => True) (fun _ _ _ _ => trivial) fun a b _ => hf a b

theorem yields_choose {f : Char → Reader α} (h : ∀ c, (f c).Yields P) : (choose f).Yields P := by
  intro i a next hp
  unfold choose at hp
  split at hp
  · exact h _ i a next hp
  · cases hp

end Reader

open Reader

variable {d d' : Draft}

/-- **One line** keeps a draft well named. -/
theorem yields_line (h : d.WellNamed) : (line d).Yields Draft.WellNamed := by
  refine yields_choose fun c => ?_
  split_ifs
  · exact Yields.map fun _ _ _ _ => h
  · refine Yields.committed (Yields.labelled fun i d' next hp => ?_)
    split at hp
    · exact yields_checked (fun x d' hopen => h.openRepeated hopen) i d' next hp
    · exact yields_checked (fun x d' hopen => h.openTable hopen) i d' next hp
    · cases hp
  · exact Yields.map fun _ _ _ _ => h
  · exact Yields.committed (yields_checked fun x d' hadd => h.addPair hadd)

/-- **All lines** keep a draft well named. -/
theorem yields_lines (n : Nat) (h : d.WellNamed) : (lines n d).Yields Draft.WellNamed := by
  induction n generalizing d with
  | zero =>
    intro i d' next hp
    cases hp
    exact h
  | succ n ih =>
    intro i d' next hp
    unfold lines at hp
    split at hp
    · next hline => exact ih ((yields_line h).before i _ _ hline) _ d' next hp
    · cases hp
      exact h
    · cases hp

/-- **A document has no two members of one name.** -/
theorem uniqueNames_of_parse {text : Text} (h : parse text = .ok t) : t.UniqueNames := by
  have hdocument : wholeDocument.Yields TableOf.UniqueNames := by
    intro i
    refine yields_andThen (fun _ => yields_andThen fun _ => ?_) i
    refine (yields_lines _ Draft.wellNamed_empty).andThen fun d hd => yields_andThen fun _ => ?_
    exact (yields_give hd).checked fun d t hd hclose => hd.close hclose
  unfold parse at h
  split at h
  · next hparse =>
    cases h
    exact hdocument _ _ _ hparse
  · cases h

end ModuleHooks.Toml
