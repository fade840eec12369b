import ModuleHooks.Proofs.Path.Steps
import ModuleHooks.Proofs.Url.Percent
import ModuleHooks.Url.FilePath
/-!
# There and back between paths and URLs

The URL of an absolute path has one segment for each step of the path, and the
path of a URL writes each segment after a slash. So going there and back keeps
the steps and nothing else, with one exception: where the text ends in a drive
letter, the path of the URL gets a slash at its end. `settle` is the path that
comes back (`toFilePath?_ofFilePath?`).

A path that comes back may therefore end in a slash that nobody wrote. It
never matters for what stands in the directory (`join_settle`).
-/

namespace ModuleHooks.Url

open ModuleHooks.Path

/-- A drive letter at the end of a path is closed by a slash. -/
def closeDrive (p : Path) : Path := if endsInDrive p then p ++ ['/'] else p

/-- **The path that comes back** from the URL of an absolute path. -/
def settle (p : Path) : Path := closeDrive (rooted (steps p))

theorem closeDrive_eq_or (p : Path) : closeDrive p = p ∨ closeDrive p = p ++ ['/'] := by
  unfold closeDrive
  split
  · exact Or.inr rfl
  · exact Or.inl rfl

/-- A path that does not end in a colon or a bar is left as it is. -/
theorem closeDrive_of_getLast {p : Path} {c : Char} (h : p.getLast? = some c)
    (hcolon : c ≠ ':') (hbar : c ≠ '|') : closeDrive p = p := by
  obtain ⟨front, rfl⟩ := List.getLast?_eq_some_iff.mp h
  refine if_neg ?_
  rw [endsInDrive, List.reverse_concat]
  split
  · next b a x r heq =>
    obtain ⟨rfl, -⟩ := List.cons_eq_cons.mp heq
    simp [hcolon, hbar]
  · exact Bool.false_ne_true

/-- The path that segments of a URL spell. -/
def segmentPath (segments : List Text) : Path :=
  closeDrive (segments.flatMap fun s => '/' :: Percent.decode s)

/-- **The path of a URL of files** writes each of its segments after a slash. -/
theorem toFilePath?_fileUrl {segments : List Text} (h : segments ≠ []) :
    (fileUrl (.domain []) segments).toFilePath? = some (segmentPath segments) := by
  cases segments with
  | nil => exact absurd rfl h
  | cons s segments => rfl

/-- **The path of a URL** is the path of its segments, of which there is one. -/
theorem eq_of_toFilePath? {url : Url} {p : Path} (h : url.toFilePath? = some p) :
    ∃ segments, url.path = .segments segments ∧ segments ≠ [] ∧ p = segmentPath segments := by
  unfold toFilePath? at h
  split at h
  · cases h
  · cases h
  · next segments hne hpath =>
    split_ifs at h
    exact ⟨segments, hpath, hne, (Option.some_inj.mp h).symm⟩

/-! ## The path that comes back -/

theorem isAbsolute_closeDrive {p : Path} (h : isAbsolute p = true) :
    isAbsolute (closeDrive p) = true := by
  rcases closeDrive_eq_or p with hp | hp <;> rw [hp]
  · exact h
  · exact isAbsolute_append h _

theorem steps_closeDrive (p : Path) : steps (closeDrive p) = steps p := by
  rcases closeDrive_eq_or p with h | h <;> rw [h]
  exact steps_append_slash p

/-- Paths of URLs are absolute. -/
theorem isAbsolute_of_toFilePath? {url : Url} {p : Path} (h : url.toFilePath? = some p) :
    isAbsolute p = true := by
  obtain ⟨segments, -, hne, rfl⟩ := eq_of_toFilePath? h
  obtain ⟨s, segments, rfl⟩ := List.exists_cons_of_ne_nil hne
  exact isAbsolute_closeDrive rfl

@[simp] theorem isAbsolute_settle (p : Path) : isAbsolute (settle p) = true :=
  isAbsolute_closeDrive (isAbsolute_rooted _)

/-- The path that comes back has the steps of the path that was sent. -/
theorem steps_settle (p : Path) : steps (settle p) = steps p := by
  rw [settle, steps_closeDrive, steps_rooted fun s hs => isStep_of_mem_steps hs]

/-- **A file in a settled directory** has one more step. -/
theorem join_settle (p : Path) {file : Text} (hfile : isAbsolute file = false) :
    Path.join (settle p) file = rooted (steps p ++ [file]) := by
  have hsteps : ∀ s ∈ steps p, s ≠ [] ∧ '/' ∉ s := fun s hs =>
    ⟨(isIdle_eq_false_iff.mp (isStep_of_mem_steps hs).1).1, (isStep_of_mem_steps hs).2⟩
  have hjoin : Path.join (rooted (steps p)) file = rooted (steps p ++ [file]) :=
    join_rooted hsteps hfile
  unfold settle closeDrive
  split
  · next hdrive =>
    have hne : steps p ≠ [] := by
      intro hnil
      rw [hnil] at hdrive
      exact absurd hdrive (by decide)
    rw [Path.join, if_neg (by rw [hfile]; exact Bool.false_ne_true), if_pos (by simp),
      rooted_concat hne, List.append_assoc, List.singleton_append]
  · exact hjoin

/-- A settled path with a file name at its end is rooted. -/
theorem settle_of_getLast {p : Path} {s : Text} {c : Char} (h : (steps p).getLast? = some s)
    (hs : s.getLast? = some c) (hcolon : c ≠ ':') (hbar : c ≠ '|') :
    settle p = rooted (steps p) := by
  refine closeDrive_of_getLast (c := c) ?_ hcolon hbar
  obtain ⟨front, hfront⟩ := List.getLast?_eq_some_iff.mp h
  obtain ⟨stem, rfl⟩ := List.getLast?_eq_some_iff.mp hs
  rw [hfront, rooted_eq_flatMap (List.append_ne_nil_of_right_ne_nil _ (List.cons_ne_nil _ _)),
    List.flatMap_append, List.flatMap_singleton, ← List.cons_append, ← List.append_assoc,
    List.getLast?_concat]

/-! ## There and back -/

/-- The segments that the steps of a path become. -/
def fileSegments : List Text → List Text
  | [] => [[]]
  | names => names.map (Percent.encode Percent.fileNameSet)

theorem fileSegments_ne_nil (names : List Text) : fileSegments names ≠ [] := by
  cases names with
  | nil => exact List.cons_ne_nil _ _
  | cons s names => exact List.cons_ne_nil _ _

/-- The URL of an absolute path. -/
theorem ofFilePath?_of_isAbsolute {p : Path} (h : isAbsolute p = true) :
    ofFilePath? p = some (fileUrl (.domain []) (fileSegments (steps p))) := by
  rw [ofFilePath?, if_pos h, components_of_isAbsolute h]
  cases steps p with
  | nil => rfl
  | cons s names =>
    simp only [List.drop_succ_cons, List.drop_zero, List.map_cons, List.map_map, fileSegments,
      Component.text_ofStep, Function.comp_def]

theorem ofFilePath?_isSome_iff {p : Path} : (ofFilePath? p).isSome ↔ isAbsolute p = true := by
  refine ⟨fun h => ?_, fun h => by rw [ofFilePath?_of_isAbsolute h]; rfl⟩
  by_contra hp
  rw [ofFilePath?, if_neg hp] at h
  exact Bool.false_ne_true h

/-- **The URL of an absolute path leads back to the path**, settled. -/
theorem toFilePath?_ofFilePath? {p : Path} {url : Url} (h : ofFilePath? p = some url) :
    url.toFilePath? = some (settle p) := by
  have hp : isAbsolute p = true := ofFilePath?_isSome_iff.mp (by rw [h]; rfl)
  rw [ofFilePath?_of_isAbsolute hp, Option.some_inj] at h
  rw [← h, toFilePath?_fileUrl (fileSegments_ne_nil _), settle, segmentPath]
  refine congrArg (fun q => some (closeDrive q)) ?_
  cases hnames : steps p with
  | nil => rfl
  | cons s names =>
    rw [rooted_eq_flatMap (List.cons_ne_nil s names), fileSegments, List.flatMap_map]
    · refine List.flatMap_congr (fun s _ => ?_)
      rw [Percent.decode_encode (by decide)]
    · exact fun h => absurd h (List.cons_ne_nil s names)

end ModuleHooks.Url
