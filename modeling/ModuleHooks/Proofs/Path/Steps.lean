import ModuleHooks.Path.Basic
import ModuleHooks.Proofs.Text.Pieces
/-!
# The steps of a path

Of the segments of a path only some lead anywhere: the empty ones and `.` are
idle. What is left are its *steps*, and an absolute path means nothing but
their list. All that the resolution of imports does with paths can be told from
them: the components are the front of the path and its steps (`components_eq`),
the file name is the last step (`fileName?_eq`), appending a path appends its
steps (`steps_join`), and lexical normalisation climbs along them
(`normalNames_eq`).

Steps are also what a path can be rebuilt from. `rooted` writes a list of them
after the root; it is injective on lists of steps (`rooted_inj`), which is how
two paths are told apart below.
-/

namespace ModuleHooks.Path

/-- **The steps of a path**: its segments without the idle ones. -/
def steps (p : Path) : List Text := (Text.splitOn '/' p).filter fun s => !isIdle s

/-- A text that is a step of its own. -/
def IsStep (s : Text) : Prop := isIdle s = false ∧ '/' ∉ s

instance : DecidablePred IsStep := fun s =>
  inferInstanceAs (Decidable (isIdle s = false ∧ '/' ∉ s))

/-- The absolute path of a list of steps. -/
def rooted (names : List Text) : Path := '/' :: Text.join "/" names

theorem isIdle_eq_true_iff {s : Text} : isIdle s = true ↔ s = [] ∨ s = ['.'] := by
  rw [isIdle, Bool.or_eq_true, beq_iff_eq, beq_iff_eq]

theorem isIdle_eq_false_iff {s : Text} : isIdle s = false ↔ s ≠ [] ∧ s ≠ ['.'] := by
  rw [← Bool.not_eq_true, isIdle_eq_true_iff, not_or]

theorem isStep_of_mem_steps {p : Path} {s : Text} (h : s ∈ steps p) : IsStep s := by
  rw [steps, List.mem_filter, Bool.not_eq_true'] at h
  exact ⟨h.2, Text.notMem_of_mem_splitOn h.1⟩

/-! ## Steps of texts put together -/

@[simp] theorem steps_nil : steps [] = [] := rfl

/-- A slash parts the steps before it from the steps after it. -/
theorem steps_append_cons (p q : Path) : steps (p ++ '/' :: q) = steps p ++ steps q := by
  rw [steps, Text.splitOn_append_cons, List.filter_append, ← steps, ← steps]

@[simp] theorem steps_cons (p : Path) : steps ('/' :: p) = steps p := steps_append_cons [] p

/-- A slash at the end adds no step. -/
theorem steps_append_slash (p : Path) : steps (p ++ ['/']) = steps p := by
  rw [steps_append_cons, steps_nil, List.append_nil]

/-- Slashes have no steps. -/
theorem steps_of_forall_slash {p : Path} (h : ∀ c ∈ p, c = '/') : steps p = [] := by
  induction p with
  | nil => rfl
  | cons c p ih =>
    obtain ⟨rfl, hp⟩ := List.forall_mem_cons.mp h
    rw [steps_cons, ih hp]

/-- A text without slashes is one step, unless it is idle. -/
theorem steps_of_isStep {s : Text} (h : IsStep s) : steps s = [s] := by
  rw [steps, Text.splitOn_of_notMem h.2, List.filter_singleton, h.1]
  rfl

theorem steps_of_isIdle {s : Text} (h : isIdle s = true) : steps s = [] := by
  rcases isIdle_eq_true_iff.mp h with rfl | rfl <;> decide

/-- **A join of pieces** has the pieces that are not idle for its steps. -/
theorem steps_join_pieces {pieces : List Text} (h : ∀ p ∈ pieces, '/' ∉ p) :
    steps (Text.join "/" pieces) = pieces.filter fun s => !isIdle s := by
  by_cases hne : pieces = []
  · rw [hne]
    rfl
  · rw [steps]
    show (Text.splitOn '/' (Text.join ['/'] pieces)).filter _ = _
    rw [Text.splitOn_join hne h]

/-- **The steps of a rooted list are the list.** -/
theorem steps_rooted {names : List Text} (h : ∀ s ∈ names, IsStep s) :
    steps (rooted names) = names := by
  rw [rooted, steps_cons, steps_join_pieces fun s hs => (h s hs).2, List.filter_eq_self]
  exact fun s hs => by rw [(h s hs).1]; rfl

theorem rooted_inj {names names' : List Text} (h : ∀ s ∈ names, IsStep s)
    (h' : ∀ s ∈ names', IsStep s) : rooted names = rooted names' ↔ names = names' := by
  refine ⟨fun heq => ?_, congrArg rooted⟩
  rw [← steps_rooted h, heq, steps_rooted h']

@[simp] theorem isAbsolute_rooted (names : List Text) : isAbsolute (rooted names) = true := rfl

/-- A text without slashes is a relative path. -/
theorem isAbsolute_of_notMem {s : Text} (h : '/' ∉ s) : isAbsolute s = false := by
  unfold isAbsolute
  split
  · exact absurd List.mem_cons_self h
  · rfl

/-- An absolute path is a slash and what follows it. -/
theorem exists_of_isAbsolute {p : Path} (h : isAbsolute p = true) : ∃ r, p = '/' :: r := by
  unfold isAbsolute at h
  split at h
  · next r => exact ⟨r, rfl⟩
  · cases h

/-- A rooted list writes each of its steps after a slash. -/
theorem rooted_eq_flatMap {names : List Text} (h : names ≠ []) :
    rooted names = names.flatMap fun s => '/' :: s :=
  Text.cons_join '/' h

/-- A rooted list with more steps at its end. -/
theorem rooted_append {names more : List Text} (h : names ≠ []) (hmore : more ≠ []) :
    rooted (names ++ more) = rooted names ++ rooted more := by
  rw [rooted_eq_flatMap h, rooted_eq_flatMap hmore, ← List.flatMap_append, rooted_eq_flatMap]
  exact List.append_ne_nil_of_left_ne_nil h more

/-- What is written after a rooted list is written after its last step. -/
theorem rooted_concat_append (names : List Text) (s more : Text) :
    rooted (names ++ [s]) ++ more = rooted (names ++ [s ++ more]) :=
  congrArg (List.cons '/') (Text.join_concat_append '/' names s more)

/-- One more step after a rooted list. -/
theorem rooted_concat {names : List Text} (h : names ≠ []) (s : Text) :
    rooted (names ++ [s]) = rooted names ++ '/' :: s := by
  rw [rooted_append h (List.cons_ne_nil s []), rooted, rooted, Text.join_singleton]

/-! ## Components -/

/-- The component of a step. -/
def Component.ofStep (s : Text) : Component := if s = ['.', '.'] then .parent else .normal s

@[simp] theorem Component.text_ofStep (s : Text) : (Component.ofStep s).text = s := by
  unfold Component.ofStep
  split
  · next h => rw [h]; rfl
  · rfl

theorem filterMap_ofSegment? (segments : List Text) :
    segments.filterMap Component.ofSegment?
      = (segments.filter fun s => !isIdle s).map Component.ofStep := by
  rw [← List.filterMap_eq_map', List.filterMap_filter]
  refine List.filterMap_congr (fun s _ => ?_)
  unfold Component.ofSegment? Component.ofStep
  cases isIdle s
  · exact (apply_ite some _ _ _).symm
  · rfl

/-- What is taken off the front of a path is idle. -/
theorem filter_dissect (p : Path) :
    ((dissect p).2.filter fun s => !isIdle s) = steps p := by
  unfold dissect steps
  split
  · next r => exact (steps_cons r).symm
  · split
    · next segments hsplit => rw [hsplit]; rfl
    · rfl

/-- **The components of a path** are its front and its steps. -/
theorem components_eq (p : Path) :
    components p = (dissect p).1.components ++ (steps p).map Component.ofStep := by
  rw [← filter_dissect, ← filterMap_ofSegment?]
  rfl

/-- **The components of an absolute path** are the root and its steps. -/
theorem components_of_isAbsolute {p : Path} (h : isAbsolute p = true) :
    components p = .root :: (steps p).map Component.ofStep := by
  obtain ⟨r, rfl⟩ := exists_of_isAbsolute h
  rw [components_eq]
  rfl

/-- Two absolute paths with the same components have the same steps. -/
theorem components_eq_iff {p q : Path} (hp : isAbsolute p = true) (hq : isAbsolute q = true) :
    components p = components q ↔ steps p = steps q := by
  rw [components_of_isAbsolute hp, components_of_isAbsolute hq, List.cons_inj_right]
  refine List.map_inj_right (fun s s' h => ?_)
  rw [← Component.text_ofStep s, h, Component.text_ofStep]

/-- **The file name of a path** is its last step, unless that leads up. -/
theorem fileName?_eq (p : Path) :
    fileName? p = (steps p).getLast?.filter (· ≠ ['.', '.']) := by
  rw [fileName?, components_eq]
  cases hlast : (steps p).getLast? with
  | none =>
    rw [List.getLast?_eq_none_iff.mp hlast]
    cases (dissect p).1 <;> rfl
  | some s =>
    obtain ⟨names, hnames⟩ := List.getLast?_eq_some_iff.mp hlast
    rw [hnames, List.map_append, List.map_singleton, ← List.append_assoc, List.getLast?_concat,
      Option.filter_some, Component.ofStep]
    by_cases hs : s = ['.', '.']
    · rw [if_pos hs, if_neg (by simpa using hs)]
    · rw [if_neg hs, if_pos (by simpa using hs)]

/-- A path whose last step does not lead up has it for its file name. -/
theorem fileName?_of_steps {p : Path} {names : List Text} {s : Text}
    (h : steps p = names ++ [s]) (hs : s ≠ ['.', '.']) : fileName? p = some s := by
  rw [fileName?_eq, h, List.getLast?_concat, Option.filter_some, if_pos (by simpa using hs)]

/-- **What follows the last slash** is the last step of a path, unless it is idle. -/
theorem exists_steps_of_lastPiece {p : Path} {s : Text} (hlast : Text.lastPiece (· == '/') p = s)
    (hs : IsStep s) : ∃ names, steps p = names ++ [s] := by
  rcases Text.eq_lastPiece_or (· == '/') p with hp | ⟨front, c, hc, hp⟩
  · refine ⟨[], ?_⟩
    rw [hp, hlast, steps_of_isStep hs, List.nil_append]
  · refine ⟨steps front, ?_⟩
    rw [hp, hlast, beq_iff_eq.mp hc, steps_append_cons, steps_of_isStep hs]

/-- What follows the last slash is the file name, unless it is idle or leads up. -/
theorem fileName?_of_lastPiece {p : Path} {s : Text} (hlast : Text.lastPiece (· == '/') p = s)
    (hs : IsStep s) (hne : s ≠ ['.', '.']) : fileName? p = some s := by
  obtain ⟨names, hnames⟩ := exists_steps_of_lastPiece hlast hs
  exact fileName?_of_steps hnames hne

/-! ## Directories and what is in them -/

theorem isAbsolute_append {p : Path} (h : isAbsolute p = true) (q : Text) :
    isAbsolute (p ++ q) = true := by
  obtain ⟨r, rfl⟩ := exists_of_isAbsolute h
  rfl

theorem isAbsolute_join {dir : Path} (h : isAbsolute dir = true) (p : Path) :
    isAbsolute (join dir p) = true := by
  unfold join
  split_ifs with hp
  · exact hp
  · exact isAbsolute_append h _
  · exact isAbsolute_append h _

/-- An absolute path replaces the directory. -/
theorem join_of_isAbsolute {p : Path} (h : isAbsolute p = true) (dir : Path) : join dir p = p :=
  if_pos h

/-- **Appending a relative path appends its steps.** -/
theorem steps_join {p : Path} (h : isAbsolute p = false) (dir : Path) :
    steps (join dir p) = steps dir ++ steps p := by
  rw [join, if_neg (by rw [h]; exact Bool.false_ne_true)]
  by_cases hdir : dir = []
  · rw [hdir]
    rfl
  by_cases hlast : dir.getLast? = some '/'
  · obtain ⟨front, rfl⟩ := List.getLast?_eq_some_iff.mp hlast
    rw [if_pos (by simp), List.append_assoc, List.singleton_append, steps_append_cons,
      steps_append_slash]
  · rw [if_neg (by simp [hdir, hlast]), steps_append_cons]

/-- What is written after a slash adds its steps, whatever the front is. -/
theorem steps_join_append_cons (dir : Path) {p : Path} (hp : p ≠ []) (q : Text) :
    steps (join dir (p ++ '/' :: q)) = steps (join dir p) ++ steps q := by
  cases habsolute : isAbsolute p with
  | true =>
    rw [join_of_isAbsolute habsolute, join_of_isAbsolute (isAbsolute_append habsolute _),
      steps_append_cons]
  | false =>
    have hrelative : isAbsolute (p ++ '/' :: q) = false := by
      obtain ⟨c, r, rfl⟩ := List.exists_cons_of_ne_nil hp
      refine Bool.eq_false_iff.mpr (fun h => ?_)
      obtain ⟨r', hr'⟩ := exists_of_isAbsolute h
      obtain ⟨rfl, -⟩ := List.cons_eq_cons.mp hr'
      cases habsolute
    rw [steps_join habsolute, steps_join hrelative, steps_append_cons, List.append_assoc]

/-- A step at the end of a directory. -/
theorem steps_join_of_isStep (dir : Path) {s : Text} (h : IsStep s) :
    steps (join dir s) = steps dir ++ [s] := by
  rw [steps_join (isAbsolute_of_notMem h.2), steps_of_isStep h]

/-- Slashes at the end of a path add no step. -/
theorem steps_join_append_slashes (dir : Path) {p : Path} (hp : p ≠ []) {slashes : Text}
    (h : ∀ c ∈ slashes, c = '/') : steps (join dir (p ++ slashes)) = steps (join dir p) := by
  cases slashes with
  | nil => rw [List.append_nil]
  | cons c slashes =>
    obtain ⟨rfl, hslashes⟩ := List.forall_mem_cons.mp h
    rw [steps_join_append_cons dir hp, steps_of_forall_slash hslashes, List.append_nil]

/-- **What is written at the end of a path** goes into its last step. -/
theorem exists_steps_join (dir : Path) (p : Path) :
    ∃ front, ∀ more : Text, '/' ∉ more →
      steps (join dir (p ++ more)) = front ++ steps (Text.lastPiece (· == '/') p ++ more) := by
  have hslash : '/' ∉ Text.lastPiece (· == '/') p := Text.notMem_lastPiece '/' p
  rcases Text.eq_lastPiece_or (· == '/') p with hsplit | ⟨s, d, hd, hsplit⟩
  · refine ⟨steps dir, fun more hmore => ?_⟩
    rw [← hsplit, steps_join]
    refine isAbsolute_of_notMem (fun hmem => ?_)
    rw [hsplit] at hmem
    exact (List.mem_append.mp hmem).elim hslash hmore
  · obtain rfl := beq_iff_eq.mp hd
    generalize Text.lastPiece (· == '/') p = last at hsplit
    by_cases hs : s = []
    · refine ⟨[], fun more _ => ?_⟩
      rw [hsplit, hs, List.nil_append, List.cons_append, join_of_isAbsolute rfl, steps_cons,
        List.nil_append]
    · refine ⟨steps (join dir s), fun more _ => ?_⟩
      rw [hsplit, List.append_assoc, List.cons_append, steps_join_append_cons dir hs]

/-- A file in a rooted directory. -/
theorem join_rooted {names : List Text} (h : ∀ s ∈ names, s ≠ [] ∧ '/' ∉ s) {file : Text}
    (hfile : isAbsolute file = false) : join (rooted names) file = rooted (names ++ [file]) := by
  rw [join, if_neg (by rw [hfile]; exact Bool.false_ne_true)]
  by_cases hne : names = []
  · rw [hne, if_pos (by decide), rooted, rooted, List.nil_append, Text.join_singleton]
    rfl
  have hlast : (rooted names).getLast? ≠ some '/' := by
    rw [rooted_eq_flatMap hne]
    obtain ⟨front, s, rfl⟩ := (List.eq_nil_or_concat' names).resolve_left hne
    obtain ⟨hs, hslash⟩ := h s (List.mem_append_right front List.mem_cons_self)
    rw [List.flatMap_append, List.flatMap_singleton, List.getLast?_append_of_ne_nil _
      (List.cons_ne_nil '/' s), List.getLast?_cons_of_ne_nil hs]
    exact fun hlast => hslash (List.mem_of_getLast? hlast)
  rw [if_neg (by simpa [rooted] using hlast), rooted_concat hne]

/-- Nothing is dropped from segments that end with one that leads anywhere. -/
theorem dropIdleEnd_concat {s : Text} (h : isIdle s = false) (front : List Text) :
    dropIdleEnd (front ++ [s]) = front ++ [s] := by
  rw [dropIdleEnd, List.reverse_concat, List.dropWhile_cons_of_neg (by rw [h]; decide),
    ← List.reverse_concat, List.reverse_reverse]

/-- The directory of an absolute path is absolute. -/
theorem isAbsolute_of_parent? {p q : Path} (hp : isAbsolute p = true) (h : parent? p = some q) :
    isAbsolute q = true := by
  obtain ⟨r, rfl⟩ := exists_of_isAbsolute hp
  unfold parent? at h
  have hdissect : dissect ('/' :: r) = (.root, Text.splitOn '/' r) := rfl
  rw [hdissect] at h
  dsimp only at h
  split at h
  · cases h
  · cases h
    rfl

/-! ## Lexical normalisation -/

/-- One step of a climb on a stack of names: `..` takes the innermost name
away. -/
def climb (stack : List Text) (s : Text) : List Text :=
  if s = ['.', '.'] then stack.drop 1 else s :: stack

/-- **Normalisation climbs along the steps.** -/
theorem normalNames_eq {p : Path} (h : isAbsolute p = true) :
    normalNames p = ((steps p).foldl climb []).reverse := by
  rw [normalNames, components_of_isAbsolute h, List.foldl_cons, List.foldl_map]
  refine congrArg List.reverse (congrArg (fun f => List.foldl f [] (steps p)) ?_)
  funext stack s
  unfold Component.ofStep climb
  split <;> rfl

end ModuleHooks.Path
