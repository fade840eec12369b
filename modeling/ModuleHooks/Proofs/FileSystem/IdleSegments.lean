import ModuleHooks.Proofs.FileSystem.Lookup
import ModuleHooks.Proofs.Path.Steps
/-!
# Idle segments on the way

A walk passes over the empty segments of a path and over `.`, wherever they are; all that they ask
for is that a directory has been reached, and so does every segment that follows. So only an idle
segment at the end matters. What is left of the segments then (`condense`) leads to the same place
(`follow_congr`), and paths with the same steps that end alike are the same to the system, unless
one of them is too long (`node?_congr`).
-/

namespace ModuleHooks.FileSystem

open ModuleHooks.Path

variable {fs : FileSystem} {place : Place} {segments segments' rest : List Text} {s : Text}

/-! ## What is left of the segments -/

/-- Whether the last segment is idle. -/
def endsIdle (segments : List Text) : Bool := segments.getLast?.any isIdle

/-- **The segments that matter**: those that are not idle, and an idle one at the end. -/
def condense (segments : List Text) : List Text :=
  (segments.filter fun s => !isIdle s) ++ if endsIdle segments then [[]] else []

theorem endsIdle_append (h : rest ≠ []) : endsIdle (segments ++ rest) = endsIdle rest := by
  rw [endsIdle, List.getLast?_append_of_ne_nil _ h, endsIdle]

theorem condense_append (h : rest ≠ []) :
    condense (segments ++ rest) = (segments.filter fun s => !isIdle s) ++ condense rest := by
  rw [condense, endsIdle_append h, List.filter_append, List.append_assoc, condense]

theorem condense_singleton_of_isIdle (hs : isIdle s = true) : condense [s] = [[]] := by
  rw [condense, endsIdle, List.getLast?_singleton, Option.any_some, hs, if_pos rfl,
    List.filter_cons_of_neg (by simp [hs])]
  rfl

theorem condense_cons_of_isIdle (hs : isIdle s = true) (h : rest ≠ []) :
    condense (s :: rest) = condense rest := by
  rw [← List.singleton_append, condense_append h, List.filter_cons_of_neg (by simp [hs])]
  rfl

theorem condense_cons_of_not (hs : isIdle s = false) :
    condense (s :: rest) = s :: condense rest := by
  have hends : endsIdle (s :: rest) = endsIdle rest := by
    cases rest with
    | nil => exact hs
    | cons t rest => exact @endsIdle_append [s] _ (List.cons_ne_nil t rest)
  rw [condense, hends, List.filter_cons_of_pos (by simp [hs]), List.cons_append, condense]

theorem condense_ne_nil (h : segments ≠ []) : condense segments ≠ [] := by
  obtain ⟨front, last, rfl⟩ := (List.eq_nil_or_concat' segments).resolve_left h
  rw [condense_append (List.cons_ne_nil last [])]
  refine List.append_ne_nil_of_right_ne_nil _ ?_
  cases hlast : isIdle last with
  | true =>
    rw [condense_singleton_of_isIdle hlast]
    exact List.cons_ne_nil _ _
  | false =>
    rw [condense_cons_of_not hlast]
    exact List.cons_ne_nil _ _

theorem condense_condense (segments : List Text) :
    condense (condense segments) = condense segments := by
  induction segments with
  | nil => rfl
  | cons s rest ih =>
    cases hs : isIdle s with
    | false => rw [condense_cons_of_not hs, condense_cons_of_not hs, ih]
    | true =>
      by_cases hrest : rest = []
      · rw [hrest, condense_singleton_of_isIdle hs, condense_singleton_of_isIdle rfl]
      · rw [condense_cons_of_isIdle hs hrest, ih]

/-- What stands in front of segments does not look at the idle ones among them. -/
theorem condense_append_condense (front segments : List Text) :
    condense (front ++ condense segments) = condense (front ++ segments) := by
  by_cases h : segments = []
  · rw [h]
    rfl
  · rw [condense_append (condense_ne_nil h), condense_append h, condense_condense]

/-! ## Walks -/

/-- **Walks that come to the same**: they arrive at the same place, stop for the same reason, or
meet a link at the same place and have the same segments that matter before them. -/
inductive Walk.Alike : Walk → Walk → Prop
  | arrived (place : Place) : Alike (.arrived place) (.arrived place)
  | stopped (why : SystemError) : Alike (.stopped why) (.stopped why)
  | detour (place : Place) {segments segments' : List Text} :
    condense segments = condense segments' →
    Alike (.detour place segments) (.detour place segments')

theorem Walk.Alike.refl (w : Walk) : w.Alike w := by
  cases w with
  | arrived place => exact .arrived place
  | stopped why => exact .stopped why
  | detour place segments => exact .detour place rfl

theorem walk_of_not_isDirectoryAt (h : fs.isDirectoryAt place = false) (hne : segments ≠ []) :
    fs.walk place segments = .stopped .notADirectory := by
  obtain ⟨s, rest, rfl⟩ := List.exists_cons_of_ne_nil hne
  rw [walk, h]
  rfl

theorem walk_cons_of_isIdle (h : fs.isDirectoryAt place = true) (hs : isIdle s = true)
    (rest : List Text) : fs.walk place (s :: rest) = fs.walk place rest := by
  rw [walk, h, hs]
  rfl

/-- **A walk does not look at idle segments on the way.** -/
theorem alike_walk_condense (fs : FileSystem) (place : Place) (segments : List Text) :
    (fs.walk place (condense segments)).Alike (fs.walk place segments) := by
  induction segments generalizing place with
  | nil => exact .refl _
  | cons s rest ih =>
    cases hdir : fs.isDirectoryAt place with
    | false =>
      rw [walk_of_not_isDirectoryAt hdir (condense_ne_nil (List.cons_ne_nil s rest)),
        walk_of_not_isDirectoryAt hdir (List.cons_ne_nil s rest)]
      exact .refl _
    | true =>
      cases hs : isIdle s with
      | true =>
        rw [walk_cons_of_isIdle hdir hs]
        by_cases hrest : rest = []
        · rw [hrest, condense_singleton_of_isIdle hs, walk_cons_of_isIdle hdir rfl]
          exact .refl _
        · rw [condense_cons_of_isIdle hs hrest]
          exact ih place
      | false =>
        rw [condense_cons_of_not hs, walk, walk, hdir, hs]
        simp only [Bool.not_true, Bool.false_eq_true, if_false]
        split_ifs with habove hlong
        · exact ih _
        · exact .refl _
        · split
          · exact .refl _
          · split_ifs
            · exact .refl _
            · exact .detour _ (condense_append_condense _ _)
            · exact .detour _ (condense_append_condense _ _)
          · exact ih _

/-- **Segments of which the same is left lead to the same place**, through links and all. -/
theorem follow_congr (n : Nat) (h : condense segments = condense segments') :
    fs.follow n place segments = fs.follow n place segments' := by
  induction n generalizing place segments segments' with
  | zero => rfl
  | succ n ih =>
    have halike := alike_walk_condense fs place segments
    have halike' := alike_walk_condense fs place segments'
    rw [← h] at halike'
    rw [follow, follow]
    -- Both walks are compared with the one along what is left, which they share.
    generalize fs.walk place (condense segments) = shared at halike halike'
    generalize fs.walk place segments = walk at halike ⊢
    generalize fs.walk place segments' = walk' at halike' ⊢
    cases halike with
    | arrived | stopped =>
      cases halike'
      rfl
    | detour place hrest =>
      cases halike' with
      | detour _ hrest' => exact ih (hrest.symm.trans hrest')

/-! ## Paths -/

/-- Whether a path ends in an idle segment. -/
def endsIdly (p : Path) : Bool := endsIdle (Text.splitOn '/' p)

theorem condense_splitOn (p : Path) :
    condense (Text.splitOn '/' p) = steps p ++ if endsIdly p then [[]] else [] := rfl

/-- A character that no idle segment holds is held by a step. -/
theorem mem_iff_exists_steps {c : Char} (hslash : c ≠ '/') (hdot : c ≠ '.') {p : Path} :
    c ∈ p ↔ ∃ s ∈ steps p, c ∈ s := by
  constructor
  · intro hc
    rw [← Text.join_splitOn '/' p] at hc
    rcases Text.eq_or_exists_of_mem_join hc with heq | ⟨s, hs, hmem⟩
    · exact absurd heq hslash
    · refine ⟨s, List.mem_filter.mpr ⟨hs, ?_⟩, hmem⟩
      have hidle : isIdle s = false := by
        rw [isIdle_eq_false_iff]
        refine ⟨List.ne_nil_of_mem hmem, ?_⟩
        rintro rfl
        exact hdot (List.mem_singleton.mp hmem)
      rw [hidle]
      rfl
  · rintro ⟨s, hs, hmem⟩
    exact (Text.isInfix_of_mem_splitOn (List.mem_of_mem_filter hs)).subset hmem

/-- **Paths with the same steps that end alike** lead to the same node, if neither is too long. -/
theorem node?_congr {p q : Path} (hp : isAbsolute p = true) (hq : isAbsolute q = true)
    (hsteps : steps p = steps q) (hends : endsIdly p = endsIdly q)
    (hlength : Text.utf8Length p ≤ 4095) (hlength' : Text.utf8Length q ≤ 4095) :
    fs.node? p = fs.node? q := by
  have hnul : List.elem '\x00' p = List.elem '\x00' q := by
    rw [Bool.eq_iff_iff, List.elem_iff, List.elem_iff,
      mem_iff_exists_steps (by decide) (by decide), mem_iff_exists_steps (by decide) (by decide),
      hsteps]
  have hne : ∀ {p : Path}, isAbsolute p = true → p ≠ [] := by
    rintro _ hp rfl
    cases hp
  have hfollow : fs.follow 41 [] (Text.splitOn '/' p) = fs.follow 41 [] (Text.splitOn '/' q) := by
    refine follow_congr 41 ?_
    rw [condense_splitOn, condense_splitOn, hsteps, hends]
  have hlocate : fs.locate p = fs.locate q := by
    rw [locate, locate, hnul, if_neg (hne hp), if_neg (hne hq), if_neg (Nat.not_lt.mpr hlength),
      if_neg (Nat.not_lt.mpr hlength'), hp, hq, if_pos rfl, hfollow]
  rw [node?, node?, hlocate]

end ModuleHooks.FileSystem
