import Mathlib.Data.List.DropRight
import ModuleHooks.Proofs.Path.PlainName
/-!
# Going up from a directory, and staying below it

A path is inside a directory if, both normalised, it has more names below those of the
directory. Whether a path that is put together from a directory and a piece is inside
the directory is a matter of the piece: its steps must never go above the place where
they begin (`exists_normalNames_join`). A walk along them then leaves the names of the
directory alone, whichever they are (`exists_foldl_climb`).

To go up some levels from a directory is to leave away as many of its last names. A `..` that
the directory itself is written with is no name: it has to be undone first, together with the
name before it. Whoever takes steps for names, and leaves away the last steps of a directory as
they are written, arrives somewhere else as soon as one of them is a `..`, unless both ways end
at the root (`reach_rdrop_eq_iff`).

For a path that is put together from a directory, some `..` and names below, this decides
whether the steps or the names are what counts (`normalise_rdrop_iff`).
-/

namespace ModuleHooks.Path

/-! ## Inside a directory -/

/-- **A path inside a directory**, after lexical normalisation of both. -/
def Inside (dir p : Path) : Prop := ∃ names, names ≠ [] ∧ normalNames p = normalNames dir ++ names

/-- **A piece of a path that stays below its beginning**: read from the left, it never has
more `..` among its steps than names before them. -/
def StaysBelow (p : Path) : Prop :=
  ∀ front, front <+: steps p → 2 * front.count ['.', '.'] ≤ front.length

instance : DecidablePred StaysBelow := fun p =>
  decidable_of_iff (∀ front ∈ (steps p).inits, 2 * front.count ['.', '.'] ≤ front.length)
    (forall_congr' fun front => by rw [List.mem_inits])

/-- The invariant of a walk that stays below its beginning: names on top of those it began
with, one for each step down that no `..` has undone. -/
theorem exists_foldl_climb {steps : List Text}
    (h : ∀ front, front <+: steps → 2 * front.count ['.', '.'] ≤ front.length)
    (stack : List Text) :
    ∃ names, steps.foldl climb stack = names ++ stack
      ∧ names.length + 2 * steps.count ['.', '.'] = steps.length := by
  induction steps using List.reverseRecOn with
  | nil => exact ⟨[], rfl, rfl⟩
  | append_singleton front s ih =>
    obtain ⟨names, hnames, hlength⟩ := ih fun f hf => h f (hf.trans (List.prefix_append front [s]))
    have hall := h _ (List.prefix_refl _)
    rw [List.count_append, List.length_append, List.length_singleton] at hall
    rw [List.foldl_append, hnames, List.count_append, List.length_append, List.length_singleton]
    by_cases hs : s = ['.', '.']
    · rw [hs, List.count_singleton_self] at hall ⊢
      cases names with
      | nil =>
        -- There is no name to go back from, but then there were too many `..` already.
        rw [List.length_nil] at hlength
        omega
      | cons name names =>
        rw [List.length_cons] at hlength
        exact ⟨names, rfl, by omega⟩
    · have hcount : [s].count ['.', '.'] = 0 := List.count_eq_zero.mpr (by simpa using Ne.symm hs)
      rw [hcount]
      exact ⟨s :: names, if_neg hs, by rw [List.length_cons]; omega⟩

/-! ## Putting paths together -/

/-- **Appending a relative path is walking along it.** -/
theorem normalNames_join {dir p : Path} (hdir : isAbsolute dir = true)
    (hp : isAbsolute p = false) :
    normalNames (join dir p) = reach (normalNames dir) (Text.splitOn '/' p) := by
  rw [normalNames_eq (isAbsolute_join hdir p), steps_join hp, List.foldl_append, reach,
    normalNames_eq hdir, List.reverse_reverse]
  rfl

/-- **What stays below its beginning** does not leave a directory that it is appended to. -/
theorem exists_normalNames_join {dir p : Path} (hdir : isAbsolute dir = true)
    (hp : isAbsolute p = false) (h : StaysBelow p) :
    ∃ names, normalNames (join dir p) = normalNames dir ++ names := by
  obtain ⟨names, hnames, -⟩ := exists_foldl_climb h (normalNames dir).reverse
  refine ⟨names.reverse, ?_⟩
  rw [normalNames_join hdir hp, reach]
  show ((steps p).foldl climb _).reverse = _
  rw [hnames, List.reverse_append, List.reverse_reverse]

/-! ## The directory of a path -/

/-- What is dropped from the end are no steps. -/
theorem filter_dropIdleEnd (segments : List Text) :
    ((dropIdleEnd segments).filter fun s => !isIdle s) = segments.filter fun s => !isIdle s := by
  have hend : ((segments.rtakeWhile isIdle).filter fun s => !isIdle s) = [] := by
    refine List.filter_eq_nil_iff.mpr (fun s hs => ?_)
    rw [List.mem_rtakeWhile_imp hs]
    exact Bool.false_ne_true
  have hsplit : segments.rdropWhile isIdle ++ segments.rtakeWhile isIdle = segments :=
    List.rdropWhile_append_rtakeWhile
  rw [← hsplit, List.filter_append, hend, List.append_nil, hsplit]
  rfl

theorem mem_of_mem_dropIdleEnd {segments : List Text} {s : Text} (h : s ∈ dropIdleEnd segments) :
    s ∈ segments := (List.rdropWhile_prefix isIdle segments).subset h

/-- What is kept ends with a step. -/
theorem isIdle_of_dropIdleEnd_eq {segments front : List Text} {s : Text}
    (h : dropIdleEnd segments = front ++ [s]) : isIdle s = false := by
  have hlast : ∀ hne : dropIdleEnd segments ≠ [], ¬isIdle ((dropIdleEnd segments).getLast hne) :=
    List.rdropWhile_last_not isIdle segments
  rw [h] at hlast
  have hs := hlast (List.append_ne_nil_of_right_ne_nil _ (List.cons_ne_nil _ _))
  rw [List.getLast_concat] at hs
  exact Bool.eq_false_of_not_eq_true hs

/-- **The directory of an absolute path** has all its steps but the last one. -/
theorem steps_parent? {p : Path} (hp : isAbsolute p = true) :
    steps ((parent? p).getD "/") = (steps p).dropLast := by
  obtain ⟨r, rfl⟩ := exists_of_isAbsolute hp
  have hsteps : steps ('/' :: r)
      = (dropIdleEnd (Text.splitOn '/' r)).filter fun s => !isIdle s := by
    rw [filter_dropIdleEnd, steps_cons, steps]
  have hdissect : dissect ('/' :: r) = (.root, Text.splitOn '/' r) := rfl
  rcases List.eq_nil_or_concat' (dropIdleEnd (Text.splitOn '/' r)) with hnil | ⟨front, s, hkept⟩
  · have hparent : parent? ('/' :: r) = none := by
      unfold parent?
      rw [hdissect]
      simp only [hnil]
    rw [hparent, hsteps, hnil]
    rfl
  · have hparent : parent? ('/' :: r) = some (rooted (dropIdleEnd front)) := by
      unfold parent?
      rw [hdissect]
      simp only [hkept]
      split
      · next hnil => exact absurd hnil (List.append_ne_nil_of_right_ne_nil _ (List.cons_ne_nil _ _))
      · rw [List.dropLast_concat]
        rfl
    have hslash : ∀ t ∈ dropIdleEnd front, '/' ∉ t := fun t ht =>
      Text.notMem_of_mem_splitOn (mem_of_mem_dropIdleEnd
        (hkept ▸ List.mem_append_left [s] (mem_of_mem_dropIdleEnd ht)))
    rw [hparent, Option.getD_some, rooted, steps_cons, steps_join_pieces hslash,
      filter_dropIdleEnd, hsteps, hkept, List.filter_append, List.filter_singleton,
      isIdle_of_dropIdleEnd_eq hkept]
    exact List.dropLast_concat.symm

theorem isAbsolute_directory {p : Path} (hp : isAbsolute p = true) :
    isAbsolute ((parent? p).getD "/") = true := by
  cases hparent : parent? p with
  | none => rfl
  | some dir => exact isAbsolute_of_parent? hp hparent

/-! ## Names of normalised paths -/

/-- Normalisation walks along the steps from the root. -/
theorem normalNames_eq_reach {p : Path} (hp : isAbsolute p = true) :
    normalNames p = reach [] (steps p) := by
  have hidle : ∀ s ∈ steps p, (!isIdle s) = true := fun s hs => by
    rw [(isStep_of_mem_steps hs).1]
    rfl
  rw [normalNames_eq hp, reach, List.filter_eq_self.mpr hidle]
  rfl

/-- **Two paths are normalised to one** exactly if they have the same names. -/
theorem normalise_inj {p q : Path} (hp : isAbsolute p = true) (hq : isAbsolute q = true) :
    normalise p = normalise q ↔ normalNames p = normalNames q := by
  have hstep {p : Path} (hp : isAbsolute p = true) : ∀ s ∈ normalNames p, IsStep s := by
    intro s hs
    rw [normalNames_eq_reach hp] at hs
    exact isStep_of_mem_steps ((mem_or_of_mem_reach hs).resolve_left List.not_mem_nil).1
  exact rooted_inj (hstep hp) (hstep hq)

/-! ## Steps and names -/

theorem length_reach_le (dirs segments : List Text) :
    (reach dirs segments).length ≤ dirs.length + segments.length := by
  induction segments generalizing dirs with
  | nil => simp [reach]
  | cons s segments ih =>
    rw [List.length_cons]
    cases hs : isIdle s with
    | true =>
      rw [reach_cons_of_isIdle hs]
      exact (ih dirs).trans (by omega)
    | false =>
      by_cases habove : s = ['.', '.']
      · rw [habove, reach_cons_above]
        have := ih dirs.dropLast
        rw [List.length_dropLast] at this
        omega
      · rw [reach_cons_of_ne hs habove]
        have := ih (dirs ++ [s])
        rw [List.length_append, List.length_singleton] at this
        omega

/-- **A `..` is lost**: a walk that turns back arrives at fewer names than it has segments. -/
theorem length_reach_lt {dirs segments : List Text} (h : ['.', '.'] ∈ segments) :
    (reach dirs segments).length < dirs.length + segments.length := by
  induction segments generalizing dirs with
  | nil => exact absurd h List.not_mem_nil
  | cons s segments ih =>
    rw [List.length_cons]
    cases hs : isIdle s with
    | true =>
      have hne : ['.', '.'] ≠ s := fun heq => by rw [← heq] at hs; exact absurd hs (by decide)
      rw [reach_cons_of_isIdle hs]
      have := @ih dirs ((List.mem_cons.mp h).resolve_left hne)
      omega
    | false =>
      by_cases habove : s = ['.', '.']
      · rw [habove, reach_cons_above]
        have := length_reach_le dirs.dropLast segments
        rw [List.length_dropLast] at this
        omega
      · rw [reach_cons_of_ne hs habove]
        have := @ih (dirs ++ [s]) ((List.mem_cons.mp h).resolve_left (Ne.symm habove))
        rw [List.length_append, List.length_singleton] at this
        omega

/-- **Leaving away the last steps is leaving away the last names** exactly if no `..` is among
the steps, or if nothing is left of the names. -/
theorem reach_rdrop_eq_iff {dirs : List Text} (h : ∀ s ∈ dirs, isIdle s = false) (n : Nat) :
    reach [] (dirs.rdrop n) = (reach [] dirs).rdrop n ↔
      (∀ s ∈ dirs.rtake n, s ≠ ['.', '.']) ∨ reach [] (dirs.rdrop n) = [] := by
  have hsplit : dirs.rdrop n ++ dirs.rtake n = dirs := List.take_append_drop _ _
  have htake : (dirs.rtake n).length ≤ n := by
    rw [List.rtake, List.length_drop]
    omega
  have hwalk : reach [] dirs = reach (reach [] (dirs.rdrop n)) (dirs.rtake n) := by
    rw [← reach_append, hsplit]
  rw [hwalk]
  obtain ⟨front, hfront⟩ : ∃ front, reach [] (dirs.rdrop n) = front := ⟨_, rfl⟩
  rw [hfront]
  constructor
  · intro heq
    -- With a `..` among the last steps the walk along them comes to fewer than `n` names, so
    -- that a name of `front` would be left away with them.
    by_contra hnot
    rw [not_or, not_forall] at hnot
    obtain ⟨⟨s, hs⟩, hne⟩ := hnot
    obtain ⟨hmem, habove⟩ := Classical.not_imp.mp hs
    have hlt := @length_reach_lt front (dirs.rtake n) (not_not.mp habove ▸ hmem)
    have hlength := congrArg List.length heq
    rw [List.rdrop, List.length_take] at hlength
    have hpos := List.length_pos_of_ne_nil hne
    omega
  · rintro (hdown | hnil)
    · have hidle : ∀ s ∈ dirs.rtake n, isIdle s = false ∧ s ≠ ['.', '.'] := fun s hs =>
        ⟨h s (List.mem_of_mem_drop hs), hdown s hs⟩
      rw [reach_eq_append hidle]
      -- There may be fewer than `n` steps; then nothing is left on either side.
      by_cases hlong : n ≤ dirs.length
      · have htake : (dirs.rtake n).length = n := by
          rw [List.rtake, List.length_drop]
          omega
        rw [List.rdrop, List.length_append, htake, Nat.add_sub_cancel, List.take_left]
      · have hnil : front = [] := by
          rw [← hfront, List.rdrop, Nat.sub_eq_zero_of_le (by omega)]
          rfl
        rw [hnil, List.nil_append, List.rdrop, Nat.sub_eq_zero_of_le htake, List.take_zero]
    · have hle := length_reach_le [] (dirs.rtake n)
      rw [List.length_nil, Nat.zero_add] at hle
      rw [hnil, List.rdrop, Nat.sub_eq_zero_of_le (hle.trans htake), List.take_zero]

/-- Names of directories are gone through without names. -/
theorem reach_leads {leads : List Text} (h : ∀ s ∈ leads, s = ['.'] ∨ s = ['.', '.'])
    (dirs : List Text) : reach dirs leads = dirs.rdrop (leads.count ['.', '.']) := by
  induction leads generalizing dirs with
  | nil => simp [reach]
  | cons s leads ih =>
    obtain ⟨hs, hleads⟩ := List.forall_mem_cons.mp h
    rcases hs with rfl | rfl
    · rw [reach_cons_of_isIdle (by decide), ih hleads, List.count_cons_of_ne (by decide)]
    · rw [reach_cons_above, ih hleads, List.count_cons_self]
      rcases List.eq_nil_or_concat' dirs with rfl | ⟨front, name, rfl⟩
      · simp
      · rw [List.dropLast_concat, List.rdrop_concat_succ]

/-- **Steps or names**: from a directory, some `..` and then names below lead where the last
steps of the directory are left away exactly if none of these is a `..`, or if what is left of
the directory is the root. -/
theorem normalise_rdrop_iff {dir : Path} {leads names : List Text}
    (hdir : isAbsolute dir = true) (hdots : ∀ s ∈ leads, s = ['.'] ∨ s = ['.', '.'])
    (hne : names ≠ []) (hnames : ∀ s ∈ names, IsStep s ∧ s ≠ ['.', '.'])
    (hrelative : isAbsolute (Text.join "/" (leads ++ names)) = false) :
    normalise (rooted ((steps dir).rdrop (leads.count ['.', '.']) ++ names))
        = normalise (join dir (Text.join "/" (leads ++ names)))
      ↔ (∀ s ∈ (steps dir).rtake (leads.count ['.', '.']), s ≠ ['.', '.'])
        ∨ normalise (rooted ((steps dir).rdrop (leads.count ['.', '.']))) = "/" := by
  obtain ⟨n, hn⟩ : ∃ n, leads.count ['.', '.'] = n := ⟨_, rfl⟩
  have hdown : ∀ s ∈ names, isIdle s = false ∧ s ≠ ['.', '.'] := fun s hs =>
    ⟨(hnames s hs).1.1, (hnames s hs).2⟩
  have hkept : ∀ s ∈ (steps dir).rdrop n, IsStep s := fun s hs =>
    isStep_of_mem_steps (List.mem_of_mem_take hs)
  have hsteps : ∀ s ∈ (steps dir).rdrop n ++ names, IsStep s :=
    List.forall_mem_append.mpr ⟨hkept, fun s hs => (hnames s hs).1⟩
  have hslash : ∀ s ∈ leads ++ names, '/' ∉ s := by
    refine List.forall_mem_append.mpr ⟨fun s hs => ?_, fun s hs => (hnames s hs).1.2⟩
    rcases hdots s hs with rfl | rfl <;> decide
  have hsplit : Text.splitOn '/' (Text.join "/" (leads ++ names)) = leads ++ names :=
    Text.splitOn_join (List.append_ne_nil_of_right_ne_nil leads hne) hslash
  have hroot : normalise (rooted ((steps dir).rdrop n)) = "/"
      ↔ reach [] ((steps dir).rdrop n) = [] := by
    have hnames := normalNames_eq_reach (isAbsolute_rooted ((steps dir).rdrop n))
    rw [steps_rooted hkept] at hnames
    rw [← hnames]
    exact normalise_inj (q := ['/']) (isAbsolute_rooted _) rfl
  rw [hn, hroot, normalise_inj (isAbsolute_rooted _) (isAbsolute_join hdir _),
    normalNames_eq_reach (isAbsolute_rooted _), steps_rooted hsteps, reach_append,
    normalNames_join hdir hrelative, hsplit, reach_append, reach_leads hdots, hn,
    reach_eq_append hdown, reach_eq_append hdown, List.append_left_inj, normalNames_eq_reach hdir]
  exact reach_rdrop_eq_iff (fun s hs => (isStep_of_mem_steps hs).1) n

end ModuleHooks.Path
