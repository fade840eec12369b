import ModuleHooks.FileSystem.Basic
import ModuleHooks.Proofs.Path.PlainName
/-!
# What a look-up finds

Some facts about looking a path up, all about the walk behind it and not about
any particular file system.

A look-up that starts at the root never finds a link (`node?_ne_link`), so a
path leads to a file, to a directory, or to nothing. The invariant is that the
walk stands on solid ground: neither the place it has reached nor any place
above it is a link. It is needed for the places above because `..` goes back
to them.

A file stands in a directory (`isDirectory_of_isFile`): where `p/f` is a file,
`p/` is a directory, for the two walks part company only at the last segment.

A slash at the end asks for a directory and changes nothing else
(`locate_append_slash_iff`), except that a path may become too long by it.

Where there are no links at all, a path leads nowhere else than its lexical
normalisation says (`LinkFree.eq_normalNames`): the walk from the root climbs
along the steps of the path, as the normalisation does. It may stop on the way,
but it cannot turn off.
-/

namespace ModuleHooks

/-- Whether a node is a symbolic link. -/
def Node.isLink : Node → Bool
  | .link _ => true
  | _ => false

namespace FileSystem

variable {fs : FileSystem}

/-! ## Solid ground -/

/-- **Neither the place nor a place above it is a link.** -/
def Solid (fs : FileSystem) (place : Place) : Prop :=
  ∀ above, above <+: place → ∀ target, fs.nodeAt? above ≠ some (.link target)

/-- What a walk may end with when it started on solid ground. -/
def Walk.Solid (fs : FileSystem) : Walk → Prop
  | .arrived place => fs.Solid place
  | .stopped _ => True
  | .detour place _ => fs.Solid place

theorem solid_nil : fs.Solid [] := by
  intro above habove target
  rw [List.prefix_nil.mp habove, nodeAt?, if_pos rfl]
  exact fun h => Node.noConfusion (Option.some.inj h)

theorem solid_dropLast {place : Place} (h : fs.Solid place) : fs.Solid place.dropLast :=
  fun above habove => h above (habove.trans (List.dropLast_prefix place))

theorem solid_concat {place : Place} (h : fs.Solid place) {segment : Text}
    (hnode : ∀ target, fs.nodeAt? (place ++ [segment]) ≠ some (.link target)) :
    fs.Solid (place ++ [segment]) := by
  intro above habove
  rcases List.prefix_concat_iff.mp habove with rfl | habove
  · exact hnode
  · exact h above habove

/-- **A walk stays on solid ground.** -/
theorem walk_solid {place : Place} {segments : List Text} (h : fs.Solid place) :
    (fs.walk place segments).Solid fs := by
  -- A walk goes to a new place in two ways only: up, or down to a node that is no link.
  fun_induction walk fs place segments with
  | case1 place => exact h
  | case2 | case5 | case6 | case7 => trivial
  | case3 place segment rest hdir hidle ih => exact ih h
  | case4 place rest hdir hidle ih => exact ih (solid_dropLast h)
  | case8 => exact solid_nil
  | case9 => exact h
  | case10 place segment rest hdir hidle hup hshort node hlink hnode ih =>
    refine ih (solid_concat h (fun target htarget => ?_))
    rw [hnode, Option.some_inj] at htarget
    exact hlink target htarget

theorem follow_solid {n : Nat} {place : Place} {segments : List Text} {found : Place}
    (h : fs.Solid place) (hfound : fs.follow n place segments = .ok found) : fs.Solid found := by
  induction n generalizing place segments with
  | zero => cases hfound
  | succ n ih =>
    have hwalk : (fs.walk place segments).Solid fs := walk_solid h
    rw [follow] at hfound
    cases hw : fs.walk place segments with
    | arrived place =>
      rw [hw] at hfound hwalk
      cases hfound
      exact hwalk
    | stopped why =>
      rw [hw] at hfound
      cases hfound
    | detour place rest =>
      rw [hw] at hfound hwalk
      exact ih hwalk hfound

/-- **An absolute path never leads to a link.** -/
theorem node?_ne_link {p : Path} (h : Path.isAbsolute p = true) (target : Text) :
    fs.node? p ≠ some (.link target) := by
  unfold node?
  cases hp : fs.locate p with
  | error why => exact fun h => nomatch h
  | ok place =>
    unfold locate at hp
    split_ifs at hp
    exact follow_solid solid_nil hp place (List.prefix_refl place) target

/-! ## The three things a path leads to -/

/-- A path leads to nothing, to a file or to a directory. -/
theorem node?_cases {p : Path} (h : Path.isAbsolute p = true) :
    fs.node? p = none ∨ (fs.node? p = some .directory ∧ fs.isDirectory p = true)
      ∨ ((∃ content, fs.node? p = some (.file content)) ∧ fs.isFile p = true) := by
  unfold isDirectory isFile
  cases hp : fs.node? p with
  | none => exact Or.inl rfl
  | some node =>
    cases node with
    | file content => exact Or.inr (Or.inr ⟨⟨content, rfl⟩, rfl⟩)
    | directory => exact Or.inr (Or.inl ⟨rfl, rfl⟩)
    | link target => exact absurd hp (node?_ne_link h target)

theorem isFile_iff {p : Path} :
    fs.isFile p = true ↔ ∃ content, fs.node? p = some (.file content) := by
  unfold isFile
  split
  · next content h => exact iff_of_true rfl ⟨content, h⟩
  · next h => exact iff_of_false Bool.false_ne_true (fun ⟨content, hp⟩ => h content hp)

/-- Where the text of a file can be read, there is a file. -/
theorem isFile_of_readText {p : Path} {text : Text} (h : fs.readText p = .ok text) :
    fs.isFile p = true := by
  unfold readText readBytes at h
  rw [isFile_iff, node?]
  cases hplace : fs.locate p with
  | error why =>
    rw [hplace] at h
    cases h
  | ok place =>
    rw [hplace] at h
    dsimp only at h ⊢
    cases hnode : fs.nodeAt? place with
    | none =>
      rw [hnode] at h
      cases h
    | some node =>
      rw [hnode] at h
      cases node with
      | file content => exact ⟨content, rfl⟩
      | directory => cases h
      | link target => cases h

/-- **The text of a file** is that of its bytes, if they are one. -/
theorem readText_of_node? {p : Path} {content : List UInt8}
    (h : fs.node? p = some (.file content)) :
    fs.readText p = (Text.decodeUtf8? content).elim (.error .malformedText) .ok := by
  have hbytes : fs.readBytes p = .ok content := by
    unfold node? at h
    unfold readBytes
    cases hplace : fs.locate p with
    | error why =>
      rw [hplace] at h
      cases h
    | ok place =>
      rw [hplace] at h
      dsimp only at h ⊢
      rw [h]
  rw [readText, hbytes]
  dsimp only
  cases Text.decodeUtf8? content <;> rfl

theorem isDirectory_iff {p : Path} : fs.isDirectory p = true ↔ fs.node? p = some .directory := by
  unfold isDirectory
  split
  · next h => exact iff_of_true rfl h
  · next h => exact iff_of_false Bool.false_ne_true h

/-! ## A file and its directory -/

/-- **A walk is walked in parts.** -/
theorem walk_append (fs : FileSystem) (place : Place) (segments more : List Text) :
    fs.walk place (segments ++ more) = match fs.walk place segments with
      | .arrived place => fs.walk place more
      | .stopped why => .stopped why
      | .detour place rest => .detour place (rest ++ more) := by
  fun_induction walk fs place segments with
  | case1 place => rfl
  | case2 place segment rest hdir => rw [List.cons_append, walk, if_pos hdir]
  | case3 place segment rest hdir hidle ih =>
    rw [List.cons_append, walk, if_neg hdir, if_pos hidle, ih]
  | case4 place rest hdir hidle ih =>
    rw [List.cons_append, walk, if_neg hdir, if_neg hidle, if_pos rfl, ih]
  | case5 place segment rest hdir hidle hup hlong =>
    rw [List.cons_append, walk, if_neg hdir, if_neg hidle, if_neg hup, if_pos hlong]
  | case6 place segment rest hdir hidle hup hshort hnode =>
    rw [List.cons_append, walk, if_neg hdir, if_neg hidle, if_neg hup, if_neg hshort, hnode]
  | case7 place segment rest hdir hidle hup hshort hnode =>
    rw [List.cons_append, walk, if_neg hdir, if_neg hidle, if_neg hup, if_neg hshort, hnode]
    rfl
  | case8 place segment rest hdir hidle hup hshort target hnode hne habsolute =>
    rw [List.cons_append, walk, if_neg hdir, if_neg hidle, if_neg hup, if_neg hshort, hnode]
    simp only [if_neg hne, if_pos habsolute, List.append_assoc]
  | case9 place segment rest hdir hidle hup hshort target hnode hne habsolute =>
    rw [List.cons_append, walk, if_neg hdir, if_neg hidle, if_neg hup, if_neg hshort, hnode]
    simp only [if_neg hne, if_neg habsolute, List.append_assoc]
  | case10 place segment rest hdir hidle hup hshort node hlink hnode ih =>
    rw [List.cons_append, walk, if_neg hdir, if_neg hidle, if_neg hup, if_neg hshort, hnode]
    cases node with
    | link target => exact absurd rfl (hlink target)
    | _ => exact ih

/-- Where a walk goes on with another segment, it stands in a directory. -/
theorem follow_append_nil {n : Nat} {place found : Place} {segments : List Text} {segment : Text}
    (h : fs.follow n place (segments ++ [segment]) = .ok found) :
    ∃ dir, fs.follow n place (segments ++ [[]]) = .ok dir ∧ fs.isDirectoryAt dir = true := by
  induction n generalizing place segments with
  | zero => cases h
  | succ n ih =>
    rw [follow, walk_append] at h
    rw [follow, walk_append]
    cases hw : fs.walk place segments with
    | stopped why =>
      rw [hw] at h
      cases h
    | detour place rest =>
      rw [hw] at h
      exact ih h
    | arrived dir =>
      rw [hw] at h
      have hdir : fs.isDirectoryAt dir = true := by
        by_contra hdir
        simp only [walk, Bool.eq_false_of_not_eq_true hdir, Bool.not_false, if_true] at h
        cases h
      refine ⟨dir, ?_, hdir⟩
      simp only [walk, hdir]
      rfl

theorem utf8Length_append (s t : Text) :
    Text.utf8Length (s ++ t) = Text.utf8Length s + Text.utf8Length t := by
  have hfold : ∀ (t : Text) (n : Nat), t.foldl (fun n c => n + (Text.utf8Char c).length) n
      = n + Text.utf8Length t := by
    intro t
    induction t with
    | nil => exact fun n => rfl
    | cons c t ih =>
      intro n
      rw [Text.utf8Length, List.foldl_cons, List.foldl_cons, ih, ih, Nat.zero_add, Nat.add_assoc]
  rw [Text.utf8Length, List.foldl_append, hfold, ← Text.utf8Length]

/-- **A file stands in a directory.** -/
theorem isDirectory_of_isFile {p : Path} {name : Text} (hp : Path.isAbsolute (p ++ ['/']) = true)
    (hname : '/' ∉ name) (h : fs.isFile (p ++ '/' :: name) = true) :
    fs.isDirectory (p ++ ['/']) = true := by
  obtain ⟨content, hnode⟩ := isFile_iff.mp h
  unfold node? at hnode
  cases hfound : fs.locate (p ++ '/' :: name) with
  | error why =>
    rw [hfound] at hnode
    cases hnode
  | ok found =>
    have habsolute : ∀ q : Text, Path.isAbsolute (p ++ '/' :: q) = true := by
      intro q
      cases p with
      | nil => rfl
      | cons c p =>
        unfold Path.isAbsolute at hp ⊢
        split at hp
        · next r heq =>
          obtain ⟨rfl, -⟩ := List.cons_eq_cons.mp heq
          rfl
        · cases hp
    have hcut : ∀ q : Text, '/' ∉ q →
        Text.splitOn '/' (p ++ '/' :: q) = Text.splitOn '/' p ++ [q] := by
      intro q hq
      rw [Text.splitOn_append_cons, Text.splitOn_of_notMem hq]
    unfold locate at hfound
    rw [habsolute, hcut name hname, if_pos rfl] at hfound
    split_ifs at hfound with hnul hempty hlong
    obtain ⟨dir, hdir, hdirectory⟩ := follow_append_nil hfound
    have hlocate : fs.locate (p ++ ['/']) = .ok dir := by
      have hlength := utf8Length_append (p ++ ['/']) name
      rw [List.append_assoc, List.singleton_append] at hlength
      unfold locate
      rw [habsolute, hcut [] List.not_mem_nil, if_neg, if_neg (by simp), if_neg (by omega),
        if_pos rfl]
      · exact hdir
      · simp only [List.elem_eq_contains, List.contains_eq_mem, List.mem_append, List.mem_cons,
          List.not_mem_nil, decide_eq_true_eq] at hnul ⊢
        tauto
    rw [isDirectory_iff, node?, hlocate]
    exact beq_iff_eq.mp hdirectory

/-! ## A slash at the end -/

/-- **An empty segment at the end** asks for a directory. -/
theorem follow_concat_nil_iff {n : Nat} {place found : Place} {segments : List Text} :
    fs.follow n place (segments ++ [[]]) = .ok found ↔
      fs.follow n place segments = .ok found ∧ fs.isDirectoryAt found = true := by
  induction n generalizing place segments with
  | zero => exact iff_of_false (fun h => by cases h) (fun h => by cases h.1)
  | succ n ih =>
    rw [follow, follow, walk_append]
    cases fs.walk place segments with
    | stopped why => exact iff_of_false (fun h => by cases h) (fun h => by cases h.1)
    | detour place rest => exact ih
    | arrived dir =>
      dsimp only
      cases hdir : fs.isDirectoryAt dir with
      | false =>
        simp only [walk, hdir, Bool.not_false, if_true]
        refine iff_of_false (fun h => by cases h) fun ⟨h, hfound⟩ => ?_
        cases h
        rw [hdir] at hfound
        cases hfound
      | true =>
        simp only [walk, hdir]
        show Except.ok dir = Except.ok found ↔ _
        refine ⟨fun h => ⟨h, ?_⟩, fun h => h.1⟩
        cases h
        exact hdir

/-- **With a slash at its end a path leads to the same place**, if that is a directory and the
path is not too long for one more character. -/
theorem locate_append_slash_iff {p : Path} (hp : Path.isAbsolute p = true) {found : Place} :
    fs.locate (p ++ ['/']) = .ok found ↔
      fs.locate p = .ok found ∧ fs.isDirectoryAt found = true ∧ Text.utf8Length p < 4095 := by
  have hsplit : Text.splitOn '/' (p ++ ['/']) = Text.splitOn '/' p ++ [[]] :=
    Text.splitOn_append_cons '/' p []
  have hlength : Text.utf8Length (p ++ ['/']) = Text.utf8Length p + 1 := utf8Length_append p ['/']
  have habsolute : Path.isAbsolute (p ++ ['/']) = true := Path.isAbsolute_append hp _
  have hnul : List.elem '\x00' (p ++ ['/']) = List.elem '\x00' p := by
    rw [List.elem_eq_contains, List.elem_eq_contains, List.contains_append]
    exact Bool.or_false _
  have hne : p ≠ [] := by
    rintro rfl
    cases hp
  unfold locate
  rw [hnul, hsplit, hlength, habsolute, hp, if_neg (List.append_ne_nil_of_left_ne_nil hne _),
    if_neg hne, if_pos rfl]
  split_ifs with hzero hslash hlong
  · exact iff_of_false (fun h => by cases h) (fun h => by cases h.1)
  · exact iff_of_false (fun h => by cases h) (fun h => by cases h.1)
  · refine iff_of_false (fun h => by cases h) (fun h => ?_)
    omega
  · omega
  · rw [follow_concat_nil_iff]
    exact ⟨fun h => ⟨h.1, h.2, by omega⟩, fun h => ⟨h.1, h.2.1⟩⟩

/-- **A directory is a directory with a slash at its end**, unless its path is too long. -/
theorem isDirectory_append_slash_iff {p : Path} (hp : Path.isAbsolute p = true) :
    fs.isDirectory (p ++ ['/']) = true ↔ fs.isDirectory p = true ∧ Text.utf8Length p < 4095 := by
  have hiff : ∀ q : Path, fs.isDirectory q = true ↔
      ∃ place, fs.locate q = .ok place ∧ fs.isDirectoryAt place = true := by
    intro q
    rw [isDirectory_iff, node?]
    cases fs.locate q with
    | error why => exact iff_of_false (fun h => by cases h) (fun ⟨_, h, _⟩ => by cases h)
    | ok place =>
      dsimp only
      refine ⟨fun h => ⟨place, rfl, beq_iff_eq.mpr h⟩, fun ⟨found, h, hfound⟩ => ?_⟩
      cases h
      exact beq_iff_eq.mp hfound
  simp only [hiff, locate_append_slash_iff hp]
  exact ⟨fun ⟨place, ⟨h, hdir, hlength⟩, _⟩ => ⟨⟨place, h, hdir⟩, hlength⟩,
    fun ⟨⟨place, h, hdir⟩, hlength⟩ => ⟨place, ⟨h, hdir, hlength⟩, hdir⟩⟩

/-- With a slash at its end a path leads to a directory or to nothing. -/
theorem node?_append_slash_of_not_isDirectory {p : Path} (hp : Path.isAbsolute p = true)
    (h : fs.isDirectory (p ++ ['/']) = false) : fs.node? (p ++ ['/']) = none := by
  cases hplace : fs.locate (p ++ ['/']) with
  | error why => rw [node?, hplace]
  | ok place =>
    obtain ⟨-, hdir, -⟩ := (locate_append_slash_iff hp).mp hplace
    have hdirectory : fs.isDirectory (p ++ ['/']) = true := by
      rw [isDirectory_iff, node?, hplace]
      exact beq_iff_eq.mp hdir
    rw [h] at hdirectory
    cases hdirectory

/-! ## Without links -/

open ModuleHooks.Path

/-- **A file system without symbolic links.** -/
def LinkFree (fs : FileSystem) : Prop := ∀ n ∈ fs.nodes, n.2.isLink = false

instance : DecidablePred LinkFree := fun fs =>
  inferInstanceAs (Decidable (∀ n ∈ fs.nodes, n.2.isLink = false))

/-- No place of it is a link. -/
theorem LinkFree.nodeAt?_ne_link (h : fs.LinkFree) (place : Place) (target : Text) :
    fs.nodeAt? place ≠ some (.link target) := by
  unfold nodeAt?
  split_ifs
  · exact fun heq => nomatch heq
  · intro heq
    obtain ⟨n, hn, hnode⟩ := Option.map_eq_some_iff.mp heq
    have hlink := h n (List.mem_of_find?_eq_some hn)
    rw [hnode] at hlink
    exact Bool.noConfusion hlink

/-- A walk that ends at a place, or stops before it does. -/
def Walk.EndsAt (place : Place) : Walk → Prop
  | .arrived found => found = place
  | .stopped _ => True
  | .detour _ _ => False

/-- **A walk without links ends where its segments lead**, or stops. -/
theorem LinkFree.endsAt_walk (h : fs.LinkFree) (place : Place) (segments : List Text) :
    (fs.walk place segments).EndsAt (reach place segments) := by
  fun_induction walk fs place segments with
  | case1 place => exact (List.reverse_reverse place).symm
  | case2 | case5 | case6 | case7 => trivial
  | case3 place segment rest hdir hidle ih => rwa [reach_cons_of_isIdle hidle]
  | case4 place rest hdir hidle ih => rwa [reach_cons_above]
  | case8 place segment rest hdir hidle hup hshort target hnode =>
    exact absurd hnode (h.nodeAt?_ne_link _ _)
  | case9 place segment rest hdir hidle hup hshort target hnode =>
    exact absurd hnode (h.nodeAt?_ne_link _ _)
  | case10 place segment rest hdir hidle hup hshort node hlink hnode ih =>
    rwa [reach_cons_of_ne (Bool.eq_false_of_not_eq_true hidle) hup]

/-- **Without links a path leads to its normalised names**, if it leads anywhere. -/
theorem LinkFree.eq_normalNames (h : fs.LinkFree) {p : Path} (hp : isAbsolute p = true)
    {place : Place} (hplace : fs.locate p = .ok place) : place = normalNames p := by
  unfold locate at hplace
  split_ifs at hplace
  rw [follow] at hplace
  have hends := h.endsAt_walk [] (Text.splitOn '/' p)
  cases hwalk : fs.walk [] (Text.splitOn '/' p) with
  | arrived found =>
    rw [hwalk] at hplace hends
    rw [← Except.ok.inj hplace, hends, normalNames_eq hp]
    rfl
  | stopped why =>
    rw [hwalk] at hplace
    cases hplace
  | detour found rest =>
    rw [hwalk] at hends
    exact hends.elim

/-- **Paths with the same normalised names** lead to the same node, if they lead anywhere. -/
theorem LinkFree.node?_congr (h : fs.LinkFree) {p q : Path} (hp : isAbsolute p = true)
    (hq : isAbsolute q = true) (hnames : normalNames p = normalNames q) {node node' : Node}
    (hnode : fs.node? p = some node) (hnode' : fs.node? q = some node') : node = node' := by
  have hat : ∀ {p node}, isAbsolute p = true → fs.node? p = some node →
      fs.nodeAt? (normalNames p) = some node := by
    intro p node hp hnode
    unfold node? at hnode
    split at hnode
    · next place hplace => rwa [← h.eq_normalNames hp hplace]
    · cases hnode
  exact Option.some.inj ((hat hp hnode).symm.trans (hnames ▸ hat hq hnode'))

end FileSystem

end ModuleHooks
