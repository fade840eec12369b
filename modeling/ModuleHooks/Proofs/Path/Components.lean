import ModuleHooks.Proofs.Path.Ascent
import ModuleHooks.Proofs.Path.Extension
/-!
# Components of paths put together

What a path is made of is its components, and the functions on paths can be told by what they
do to the list of them. Appending a path that has no front of its own appends its components
(`components_join`), whatever the directory is: absolute, relative, written with slashes at its
end, or nothing at all. And a path with a file name is the directory that it is in and that name
(`exists_parent?_of_fileName?`).

Both would fail for texts. A directory is given back without what is idle at its end, so that
putting it together with the name need not give the path as it was written. What can be said of
the texts is that a directory is written with fewer characters (`length_lt_of_parent?`).
-/

namespace ModuleHooks.Path

/-! ## Fronts -/

/-- **The front of a path** is told by its first character and its first segment. -/
theorem fst_dissect (p : Path) : (dissect p).1
    = if isAbsolute p then .root
      else if (Text.splitOn '/' p).head? = some ['.'] then .current else .none := by
  unfold dissect
  split
  · rfl
  · next hslash =>
    have hrelative : isAbsolute p = false := by
      unfold isAbsolute
      split
      · next r => exact absurd rfl (hslash r)
      · rfl
    rw [hrelative, if_neg Bool.false_ne_true]
    split
    · next segments hsplit =>
      rw [hsplit]
      rfl
    · next hdot =>
      refine (if_neg fun hhead => ?_).symm
      obtain ⟨segments, hsegments⟩ := List.head?_eq_some_iff.mp hhead
      exact hdot segments hsegments

/-- What is written behind a slash leaves the front alone. -/
theorem fst_dissect_append_cons {dir : Path} (h : dir ≠ []) (p : Path) :
    (dissect (dir ++ '/' :: p)).1 = (dissect dir).1 := by
  obtain ⟨c, r, rfl⟩ := List.exists_cons_of_ne_nil h
  have habsolute : isAbsolute (c :: r ++ '/' :: p) = isAbsolute (c :: r) := by
    unfold isAbsolute
    rw [List.cons_append]
    split
    · next heq =>
      obtain ⟨rfl, -⟩ := List.cons_eq_cons.mp heq
      rfl
    · next hne =>
      split
      · next heq =>
        obtain ⟨rfl, -⟩ := List.cons_eq_cons.mp heq
        exact absurd rfl (hne _)
      · rfl
  have hhead : (Text.splitOn '/' (c :: r ++ '/' :: p)).head? = (Text.splitOn '/' (c :: r)).head? := by
    rw [Text.splitOn_append_cons]
    exact List.head?_append_of_ne_nil _ (Text.splitOn_ne_nil '/' _)
  rw [fst_dissect, fst_dissect, habsolute, hhead]

/-- A path without a front is relative. -/
theorem isAbsolute_of_fst_dissect {p : Path} (h : (dissect p).1 = .none) :
    isAbsolute p = false := by
  refine Bool.eq_false_iff.mpr (fun habsolute => ?_)
  rw [fst_dissect, if_pos habsolute] at h
  cases h

/-- The front of some of the segments of a path is that of the path. -/
theorem fst_dissect_assemble {p : Path} {kept rest : List Text}
    (h : (dissect p).2 = kept ++ rest) :
    (dissect (assemble (dissect p).1 kept)).1 = (dissect p).1 := by
  cases hfront : (dissect p).1 with
  | root => rfl
  | current =>
    cases kept with
    | nil => rfl
    | cons s kept => exact @fst_dissect_append_cons ['.'] (by decide) _
  | none =>
    -- Without a front of its own, the path is its segments, and the kept ones are the path up to
    -- one of its slashes.
    have hp := assemble_dissect p
    rw [hfront, h] at hp
    show (dissect (Text.join ['/'] kept)).1 = .none
    by_cases hkept : kept = []
    · rw [hkept]
      rfl
    by_cases hrest : rest = []
    · rw [hrest, List.append_nil] at hp
      rw [← hfront, ← hp]
      rfl
    have hjoin : Text.join ['/'] (kept ++ rest)
        = Text.join ['/'] kept ++ '/' :: Text.join ['/'] rest := Text.join_append hkept hrest
    by_cases hnil : Text.join ['/'] kept = []
    · rw [hnil]
      rfl
    · rw [← hfront, ← hp]
      show _ = (dissect (Text.join ['/'] (kept ++ rest))).1
      rw [hjoin, fst_dissect_append_cons hnil]

/-! ## Appending -/

/-- What is appended to a directory leaves its front alone. -/
theorem fst_dissect_join {dir : Path} (hdir : dir ≠ []) {p : Path} (h : isAbsolute p = false) :
    (dissect (join dir p)).1 = (dissect dir).1 := by
  rw [join, if_neg (by rw [h]; exact Bool.false_ne_true)]
  by_cases hlast : dir.getLast? = some '/'
  · obtain ⟨front, rfl⟩ := List.getLast?_eq_some_iff.mp hlast
    rw [if_pos (by simp), List.append_assoc, List.singleton_append]
    by_cases hfront : front = []
    · rw [hfront]
      rfl
    · rw [fst_dissect_append_cons hfront, fst_dissect_append_cons hfront]
  · rw [if_neg (by simp [hdir, hlast]), fst_dissect_append_cons hdir]

/-- **Appending a path without a front appends its components.** -/
theorem components_join {p : Path} (h : (dissect p).1 = .none) (dir : Path) :
    components (join dir p) = components dir ++ components p := by
  have hrelative := isAbsolute_of_fst_dissect h
  by_cases hdir : dir = []
  · rw [hdir, join, if_neg (by rw [hrelative]; exact Bool.false_ne_true), if_pos (by decide)]
    rfl
  · rw [components_eq, components_eq dir, components_eq p, fst_dissect_join hdir hrelative, h,
      steps_join hrelative, List.map_append, List.append_assoc]
    rfl

/-- A step has no front. -/
theorem fst_dissect_of_isStep {s : Text} (h : IsStep s) : (dissect s).1 = .none := by
  rw [fst_dissect, isAbsolute_of_notMem h.2, if_neg Bool.false_ne_true,
    Text.splitOn_of_notMem h.2, List.head?_cons, if_neg]
  rintro heq
  exact (isIdle_eq_false_iff.mp h.1).2 (Option.some.inj heq)

/-- Appending a step appends its component. -/
theorem components_join_of_isStep {s : Text} (h : IsStep s) (dir : Path) :
    components (join dir s) = components dir ++ [.ofStep s] := by
  rw [components_join (fst_dissect_of_isStep h), components_eq s, fst_dissect_of_isStep h,
    steps_of_isStep h]
  rfl

theorem nil_join (p : Path) : join [] p = p := by
  by_cases h : isAbsolute p = true
  · exact join_of_isAbsolute h []
  · rw [join, if_neg h, if_pos (by decide), List.nil_append]

/-- Every component of a path but the first one is that of a step. -/
theorem exists_isStep_of_mem_tail {p : Path} {c : Component} (h : c ∈ (components p).tail) :
    ∃ s, IsStep s ∧ c = .ofStep s := by
  have hsteps : c ∈ (steps p).map Component.ofStep := by
    rw [components_eq] at h
    cases hfront : (dissect p).1 with
    | none =>
      rw [hfront] at h
      exact List.mem_of_mem_tail h
    | root =>
      rw [hfront] at h
      exact h
    | current =>
      rw [hfront] at h
      exact h
  obtain ⟨s, hs, rfl⟩ := List.mem_map.mp hsteps
  exact ⟨s, isStep_of_mem_steps hs, rfl⟩

/-- A component of a path is written as a path with it alone. -/
theorem components_text {p : Path} {c : Component} (h : c ∈ components p) :
    components c.text = [c] := by
  rw [components_eq, List.mem_append] at h
  obtain h | h := h
  · cases hfront : (dissect p).1 with
    | none =>
      rw [hfront] at h
      cases h
    | root =>
      rw [hfront] at h
      rw [List.mem_singleton.mp h]
      rfl
    | current =>
      rw [hfront] at h
      rw [List.mem_singleton.mp h]
      rfl
  · obtain ⟨s, hs, rfl⟩ := List.mem_map.mp h
    have hjoin := components_join_of_isStep (isStep_of_mem_steps hs) []
    rw [nil_join] at hjoin
    rw [Component.text_ofStep, hjoin]
    rfl

/-- A path whose first component is an ordinary name has no front. -/
theorem fst_dissect_of_components {p : Path} {name : Text} {rest : List Component}
    (h : components p = .normal name :: rest) : (dissect p).1 = .none := by
  rw [components_eq] at h
  cases hfront : (dissect p).1 with
  | none => rfl
  | root =>
    rw [hfront] at h
    cases h
  | current =>
    rw [hfront] at h
    cases h

/-! ## The directory of a file -/

/-- A segment of a path holds no slash. -/
theorem notMem_of_mem_dissect {p : Path} {s : Text} (h : s ∈ (dissect p).2) : '/' ∉ s := by
  unfold dissect at h
  split at h
  · exact Text.notMem_of_mem_splitOn h
  · split at h
    · next segments hsplit =>
      exact Text.notMem_of_mem_splitOn (hsplit ▸ List.mem_cons_of_mem _ h)
    · exact Text.notMem_of_mem_splitOn h

/-- **The components of some of the segments of a path.** -/
theorem components_assemble {p : Path} {kept rest : List Text}
    (h : (dissect p).2 = kept ++ rest) :
    components (assemble (dissect p).1 kept)
      = (dissect p).1.components ++ (kept.filter fun s => !isIdle s).map Component.ofStep := by
  have hslash : ∀ s ∈ kept, '/' ∉ s := fun s hs =>
    notMem_of_mem_dissect (p := p) (h ▸ List.mem_append_left rest hs)
  have hsteps : steps (assemble (dissect p).1 kept) = kept.filter fun s => !isIdle s := by
    cases (dissect p).1 with
    | none => exact steps_join_pieces hslash
    | root => exact (steps_cons _).trans (steps_join_pieces hslash)
    | current =>
      cases kept with
      | nil => rfl
      | cons s kept =>
        show steps (['.'] ++ '/' :: Text.join "/" (s :: kept)) = _
        rw [steps_append_cons, steps_join_pieces hslash]
        rfl
  rw [components_eq, fst_dissect_assemble h, hsteps]

/-- A path with a last step has a directory: what is left without it, and without what is idle
in front of it. -/
theorem parent?_of_dropIdleEnd {p : Path} {front : List Text} {s : Text}
    (h : dropIdleEnd (dissect p).2 = front ++ [s]) :
    parent? p = some (assemble (dissect p).1 (dropIdleEnd front)) := by
  unfold parent?
  simp only [h]
  split
  · next hnil => exact absurd hnil (List.append_ne_nil_of_right_ne_nil _ (List.cons_ne_nil _ _))
  · rw [List.dropLast_concat]

/-- **A path with a file name** is in a directory, and its components are those of the directory
and the name. -/
theorem exists_parent?_of_fileName? {p : Path} {name : Text} (h : fileName? p = some name) :
    ∃ dir, parent? p = some dir ∧ components p = components dir ++ [.normal name] := by
  have hsteps : steps p = (dropIdleEnd (dissect p).2).filter fun s => !isIdle s := by
    rw [filter_dropIdleEnd, filter_dissect]
  rw [fileName?_eq, Option.filter_eq_some_iff, decide_eq_true_iff] at h
  obtain ⟨hlast, habove⟩ := h
  obtain hnil | ⟨front, s, hkept⟩ := List.eq_nil_or_concat' (dropIdleEnd (dissect p).2)
  · rw [hsteps, hnil] at hlast
    cases hlast
  have hsteps : steps p = (front.filter fun s => !isIdle s) ++ [s] := by
    rw [hsteps, hkept, List.filter_append, List.filter_singleton, isIdle_of_dropIdleEnd_eq hkept]
    rfl
  rw [hsteps, List.getLast?_concat] at hlast
  obtain rfl : name = s := (Option.some.inj hlast).symm
  obtain ⟨rest, hrest⟩ : dropIdleEnd front <+: (dissect p).2 :=
    (List.rdropWhile_prefix isIdle front).trans
      ((hkept ▸ List.prefix_append front [name]).trans (List.rdropWhile_prefix isIdle _))
  refine ⟨_, parent?_of_dropIdleEnd hkept, ?_⟩
  rw [components_assemble hrest.symm, filter_dropIdleEnd, components_eq, hsteps, List.map_append,
    List.append_assoc, List.map_singleton, Component.ofStep, if_neg habove]

/-! ## Going up -/

/-- More segments, not all of them empty, are written with more characters. -/
theorem length_assemble_lt {rest : List Text} {s : Text} (hmem : s ∈ rest) (hs : s ≠ [])
    (front : Front) (kept : List Text) :
    (assemble front kept).length < (assemble front (kept ++ rest)).length := by
  have hrest : rest ≠ [] := List.ne_nil_of_mem hmem
  have hpos : 0 < (Text.join ['/'] rest).length := by
    obtain ⟨t, more, rfl⟩ := List.exists_cons_of_ne_nil hrest
    by_cases hmore : more = []
    · rw [hmore, Text.join_singleton]
      rw [hmore, List.mem_singleton] at hmem
      exact List.length_pos_of_ne_nil (hmem ▸ hs)
    · rw [Text.join_cons t hmore, List.length_append, List.length_append, List.length_singleton]
      omega
  have hjoin : (Text.join ['/'] kept).length < (Text.join ['/'] (kept ++ rest)).length := by
    by_cases hkept : kept = []
    · rw [hkept]
      exact hpos
    · rw [Text.join_append hkept hrest, List.length_append, List.length_cons]
      omega
  cases front with
  | none => exact hjoin
  | root => exact Nat.succ_lt_succ hjoin
  | current =>
    cases kept with
    | nil =>
      obtain ⟨t, more, rfl⟩ := List.exists_cons_of_ne_nil hrest
      show 1 < (Text.join ['/'] (t :: more)).length + 2
      omega
    | cons t kept => exact Nat.succ_lt_succ (Nat.succ_lt_succ hjoin)

/-- **The directory of a path is shorter than the path**, so that going up comes to an end. -/
theorem length_lt_of_parent? {p q : Path} (h : parent? p = some q) : q.length < p.length := by
  obtain hnil | ⟨front, s, hkept⟩ := List.eq_nil_or_concat' (dropIdleEnd (dissect p).2)
  · have hcurrent : (dissect p).1 = .current ∧ q = [] := by
      unfold parent? at h
      simp only [hnil] at h
      split at h
      · next hfront => exact ⟨hfront, (Option.some.inj h).symm⟩
      · cases h
    obtain ⟨hfront, rfl⟩ := hcurrent
    refine List.length_pos_of_ne_nil ?_
    rintro rfl
    cases hfront
  · obtain rfl := Option.some.inj ((parent?_of_dropIdleEnd hkept).symm.trans h)
    obtain ⟨more, hmore⟩ := List.rdropWhile_prefix isIdle front
    obtain ⟨tail, htail⟩ := List.rdropWhile_prefix isIdle (dissect p).2
    have hsegments : (dissect p).2 = dropIdleEnd front ++ (more ++ s :: tail) := by
      rw [← htail]
      show dropIdleEnd (dissect p).2 ++ tail = _
      rw [hkept, ← List.append_assoc]
      conv_lhs => rw [← hmore]
      rw [List.append_assoc]
      rfl
    have hs : s ≠ [] := (isIdle_eq_false_iff.mp (isIdle_of_dropIdleEnd_eq hkept)).1
    have hlt := length_assemble_lt (List.mem_append_right more (List.mem_cons_self (l := tail)))
      hs (dissect p).1 (dropIdleEnd front)
    rwa [← hsegments, assemble_dissect] at hlt

end ModuleHooks.Path
