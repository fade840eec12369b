import ModuleHooks.Proofs.Path.Steps
/-!
# Plain names

Letters, digits, `-`, `_` and `.` mean nothing special in a path, in a URL or in
a specifier, so a name of such characters is the same text in all three. That
is the whole reason why relative imports between files with plain names can be
followed from the specifier to the disk.

The characters are finitely many, and what is said about one of them is
decided by going through all of them (`forall_isPlain`). For everything that
is *not* plain it is enough that a plain text does not hold it
(`notMem_of_isPlain`).
-/

namespace ModuleHooks.Path

/-- Whether a character means nothing special anywhere. -/
def isPlain (c : Char) : Bool := c.isAlphanum || c == '-' || c == '_' || c == '.'

/-- **A plain name**: plain characters, at least one, and no name that stands
for a directory. -/
structure IsPlainName (s : Text) : Prop where
  /-- All its characters are plain. -/
  plain : ∀ c ∈ s, isPlain c = true
  /-- There is one. -/
  ne_nil : s ≠ []
  /-- It is not the directory itself. -/
  ne_here : s ≠ ['.']
  /-- It is not the directory above. -/
  ne_above : s ≠ ['.', '.']

instance : DecidablePred IsPlainName := fun s =>
  decidable_of_iff (s.all isPlain = true ∧ s ≠ [] ∧ s ≠ ['.'] ∧ s ≠ ['.', '.'])
    ⟨fun h => ⟨List.all_eq_true.mp h.1, h.2.1, h.2.2.1, h.2.2.2⟩,
      fun h => ⟨List.all_eq_true.mpr h.plain, h.ne_nil, h.ne_here, h.ne_above⟩⟩

/-- **A plain segment**: a plain name or one of the two names of directories. -/
def IsPlainSegment (s : Text) : Prop := (s = ['.'] ∨ s = ['.', '.']) ∨ IsPlainName s

instance : DecidablePred IsPlainSegment := fun s =>
  inferInstanceAs (Decidable ((s = ['.'] ∨ s = ['.', '.']) ∨ IsPlainName s))

/-! ## Plain characters -/

theorem lt_of_isPlain {c : Char} (h : isPlain c = true) : c.toNat < 128 := by
  have hle : ∀ d : Char, c.val ≤ d.val → c.toNat ≤ d.toNat := fun d h =>
    UInt32.le_iff_toNat_le.mp h
  simp only [isPlain, Char.isAlphanum, Char.isAlpha, Char.isUpper, Char.isLower, Char.isDigit,
    Bool.or_eq_true, Bool.and_eq_true, decide_eq_true_eq, beq_iff_eq] at h
  rcases h with (((((⟨-, h⟩ | ⟨-, h⟩) | ⟨-, h⟩) | rfl) | rfl) | rfl)
  · exact lt_of_le_of_lt (hle 'Z' h) (by decide)
  · exact lt_of_le_of_lt (hle 'z' h) (by decide)
  · exact lt_of_le_of_lt (hle '9' h) (by decide)
  all_goals decide

/-- **What holds of the plain characters below 128 holds of all of them.** -/
theorem forall_isPlain {p : Char → Bool}
    (h : ∀ n, n < 128 → isPlain (Char.ofNat n) = true → p (Char.ofNat n) = true) {c : Char}
    (hc : isPlain c = true) : p c = true := by
  have himp : (!isPlain c || p c) = true := by
    refine Text.forall_ascii (p := fun c => !isPlain c || p c) (fun n hn => ?_) (lt_of_isPlain hc)
    by_cases hplain : isPlain (Char.ofNat n) = true
    · rw [h n hn hplain, Bool.or_true]
    · rw [Bool.eq_false_of_not_eq_true hplain]
      rfl
  rw [hc] at himp
  exact himp

/-- A plain text holds no character that is not plain. -/
theorem notMem_of_isPlain {s : Text} (h : ∀ c ∈ s, isPlain c = true) {d : Char}
    (hd : isPlain d = false) : d ∉ s := fun hmem => by
  rw [h d hmem] at hd
  cases hd

theorem IsPlainSegment.plain {s : Text} (h : IsPlainSegment s) : ∀ c ∈ s, isPlain c = true := by
  have hdot : isPlain '.' = true := by decide
  rcases h with (rfl | rfl) | h
  · exact List.forall_mem_singleton.mpr hdot
  · exact List.forall_mem_cons.mpr ⟨hdot, List.forall_mem_singleton.mpr hdot⟩
  · exact h.plain

theorem IsPlainSegment.ne_nil {s : Text} (h : IsPlainSegment s) : s ≠ [] := by
  rcases h with (rfl | rfl) | h
  · exact List.cons_ne_nil _ _
  · exact List.cons_ne_nil _ _
  · exact h.ne_nil

theorem IsPlainName.isStep {s : Text} (h : IsPlainName s) : IsStep s :=
  ⟨isIdle_eq_false_iff.mpr ⟨h.ne_nil, h.ne_here⟩, notMem_of_isPlain h.plain (by decide)⟩

/-- Plain characters, of which one is no dot, are a plain name. -/
theorem isPlainName_append {s : Text} (h : ∀ c ∈ s, isPlain c = true) {more : Text}
    (hmore : ∀ c ∈ more, isPlain c = true) {d : Char} (hd : d ∈ more) (hdot : d ≠ '.') :
    IsPlainName (s ++ more) where
  plain c hc := (List.mem_append.mp hc).elim (h c) (hmore c)
  ne_nil := List.append_ne_nil_of_right_ne_nil s (List.ne_nil_of_mem hd)
  ne_here heq := by
    have hmem : d ∈ ['.'] := heq ▸ List.mem_append_right s hd
    exact hdot (List.mem_singleton.mp hmem)
  ne_above heq := by
    have hmem : d ∈ ['.', '.'] := heq ▸ List.mem_append_right s hd
    simp only [List.mem_cons, List.not_mem_nil, or_false, or_self] at hmem
    exact hdot hmem

/-! ## Climbing -/

/-- The names of a directory after a walk along segments. -/
def reach (dirs segments : List Text) : List Text :=
  ((segments.filter fun s => !isIdle s).foldl climb dirs.reverse).reverse

theorem reach_cons_of_isIdle {s : Text} (h : isIdle s = true) (dirs segments : List Text) :
    reach dirs (s :: segments) = reach dirs segments := by
  rw [reach, List.filter_cons_of_neg (by rw [h]; decide), reach]

theorem reach_cons_above (dirs segments : List Text) :
    reach dirs (['.', '.'] :: segments) = reach dirs.dropLast segments := by
  rw [reach, List.filter_cons_of_pos (by decide), List.foldl_cons, climb, if_pos rfl,
    List.drop_one, List.tail_reverse, reach]

theorem reach_cons_of_ne {s : Text} (hidle : isIdle s = false) (hs : s ≠ ['.', '.'])
    (dirs segments : List Text) : reach dirs (s :: segments) = reach (dirs ++ [s]) segments := by
  rw [reach, List.filter_cons_of_pos (by rw [hidle]; decide), List.foldl_cons, climb, if_neg hs,
    ← List.reverse_concat, reach]

theorem climb_of_isPlainName {s : Text} (h : IsPlainName s) (stack : List Text) :
    climb stack s = s :: stack :=
  if_neg h.ne_above

/-- A plain name at the end is where the walk arrives. -/
theorem reach_concat {s : Text} (h : IsPlainName s) (dirs segments : List Text) :
    reach dirs (segments ++ [s]) = reach dirs segments ++ [s] := by
  rw [reach, List.filter_append, List.filter_singleton, h.isStep.1, List.foldl_append]
  show (climb _ s).reverse = _
  rw [climb_of_isPlainName h, List.reverse_cons, ← reach]

/-- A walk may be interrupted. -/
theorem reach_append (dirs segments more : List Text) :
    reach dirs (segments ++ more) = reach (reach dirs segments) more := by
  rw [reach, reach, reach, List.filter_append, List.foldl_append, List.reverse_reverse]

/-- **What a walk arrives at** was there at its beginning, or leads down along it. -/
theorem mem_or_of_mem_reach {dirs segments : List Text} {s : Text} (h : s ∈ reach dirs segments) :
    s ∈ dirs ∨ s ∈ segments ∧ isIdle s = false ∧ s ≠ ['.', '.'] := by
  induction segments generalizing dirs with
  | nil => exact Or.inl (by simpa [reach] using h)
  | cons t segments ih =>
    have hrest : s ∈ segments ∧ isIdle s = false ∧ s ≠ ['.', '.'] →
        s ∈ t :: segments ∧ isIdle s = false ∧ s ≠ ['.', '.'] :=
      fun h => ⟨List.mem_cons_of_mem t h.1, h.2⟩
    cases ht : isIdle t with
    | true =>
      rw [reach_cons_of_isIdle ht] at h
      exact (ih h).imp_right hrest
    | false =>
      by_cases habove : t = ['.', '.']
      · rw [habove, reach_cons_above] at h
        exact (ih h).imp List.mem_of_mem_dropLast hrest
      · rw [reach_cons_of_ne ht habove] at h
        rcases ih h with hmem | hmem
        · refine (List.mem_append.mp hmem).imp_right (fun hmem => ?_)
          rw [List.mem_singleton.mp hmem]
          exact ⟨List.mem_cons_self, ht, habove⟩
        · exact Or.inr (hrest hmem)

/-- A plain segment that leads down is a plain name. -/
theorem IsPlainSegment.isPlainName {s : Text} (h : IsPlainSegment s) (hidle : isIdle s = false)
    (habove : s ≠ ['.', '.']) : IsPlainName s :=
  h.resolve_left (fun h => h.elim (isIdle_eq_false_iff.mp hidle).2 habove)

/-- **A walk among plain names stays among plain names.** -/
theorem isPlainName_of_mem_reach {dirs segments : List Text} (hdirs : ∀ s ∈ dirs, IsPlainName s)
    (h : ∀ s ∈ segments, IsPlainSegment s) : ∀ s ∈ reach dirs segments, IsPlainName s := by
  intro s hs
  rcases mem_or_of_mem_reach hs with hmem | ⟨hmem, hidle, habove⟩
  · exact hdirs s hmem
  · exact (h s hmem).isPlainName hidle habove

/-- A walk among plain segments stays among them. -/
theorem isPlainSegment_of_mem_reach {dirs segments : List Text}
    (hdirs : ∀ s ∈ dirs, IsPlainSegment s) (h : ∀ s ∈ segments, IsPlainSegment s) :
    ∀ s ∈ reach dirs segments, IsPlainSegment s := fun s hs =>
  (mem_or_of_mem_reach hs).elim (hdirs s) (fun hmem => h s hmem.1)

/-- A walk that never turns back ends with all its steps. -/
theorem foldl_climb_of_ne_above {names : List Text} (h : ∀ s ∈ names, s ≠ ['.', '.'])
    (stack : List Text) : names.foldl climb stack = names.reverse ++ stack := by
  induction names generalizing stack with
  | nil => rfl
  | cons s names ih =>
    obtain ⟨hs, hnames⟩ := List.forall_mem_cons.mp h
    rw [List.foldl_cons, climb, if_neg hs, ih hnames, List.reverse_cons, List.append_assoc,
      List.singleton_append]

/-- Segments that lead down, one and all, are where the walk arrives. -/
theorem reach_eq_append {segments : List Text}
    (h : ∀ s ∈ segments, isIdle s = false ∧ s ≠ ['.', '.']) (dirs : List Text) :
    reach dirs segments = dirs ++ segments := by
  rw [reach, List.filter_eq_self.mpr fun s hs => by rw [(h s hs).1]; rfl,
    foldl_climb_of_ne_above fun s hs => (h s hs).2, List.reverse_append, List.reverse_reverse,
    List.reverse_reverse]

/-- The directory of a file with a plain path. -/
theorem parent?_rooted {names : List Text} (h : ∀ s ∈ names, IsPlainName s) :
    (parent? (rooted names)).getD "/" = rooted names.dropLast := by
  rcases List.eq_nil_or_concat' names with rfl | ⟨dirs, name, rfl⟩
  · decide
  have hdissect : dissect (rooted (dirs ++ [name])) = (.root, dirs ++ [name]) := by
    show (Front.root, Text.splitOn '/' (Text.join ['/'] (dirs ++ [name]))) = _
    rw [Text.splitOn_join (List.append_ne_nil_of_right_ne_nil _ (List.cons_ne_nil _ _))
      fun s hs => (h s hs).isStep.2]
  have hidle : ∀ kept : List Text, (∀ s ∈ kept, IsPlainName s) → dropIdleEnd kept = kept := by
    intro kept hkept
    rcases List.eq_nil_or_concat' kept with rfl | ⟨front, s, rfl⟩
    · rfl
    · exact dropIdleEnd_concat (hkept s (List.mem_append_right _ List.mem_cons_self)).isStep.1 front
  have hdirs : ∀ s ∈ dirs, IsPlainName s := fun s hs => h s (List.mem_append_left _ hs)
  have hparent : parent? (rooted (dirs ++ [name])) = some (rooted dirs) := by
    unfold parent?
    rw [hdissect]
    simp only [hidle _ h]
    split
    · next hnil => exact absurd hnil (List.append_ne_nil_of_right_ne_nil _ (List.cons_ne_nil _ _))
    · rw [List.dropLast_concat, hidle _ hdirs]
      rfl
  rw [hparent, List.dropLast_concat]
  rfl

/-- **The lexical target of a relative path** is the walk along its segments. -/
theorem normalise_join_rooted {dirs segments : List Text} (hdirs : ∀ s ∈ dirs, IsPlainName s)
    (h : ∀ s ∈ segments, IsPlainSegment s)
    (hrelative : isAbsolute (Text.join "/" segments) = false) :
    normalise (join (rooted dirs) (Text.join "/" segments)) = rooted (reach dirs segments) := by
  rw [normalise, normalNames_eq (isAbsolute_join (isAbsolute_rooted dirs) _), steps_join hrelative,
    steps_rooted (fun s hs => (hdirs s hs).isStep),
    steps_join_pieces (fun s hs => notMem_of_isPlain (h s hs).plain (by decide)),
    List.foldl_append, foldl_climb_of_ne_above fun s hs => (hdirs s hs).ne_above,
    List.append_nil]
  rfl

end ModuleHooks.Path
