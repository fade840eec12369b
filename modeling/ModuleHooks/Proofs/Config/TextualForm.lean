import ModuleHooks.Proofs.Text.Pieces
import ModuleHooks.Proofs.Config.Fields
/-!
# The textual form of a value

A value that is set from a text can be written as a text again (`Config.render`), and the text that
is written need not be the one that was read: blanks around a callback's name are dropped, and so
are the blanks and the empty pieces of a list. What is written is a normal form. Read again, it
gives the value that it was written for (`fromText_render`), because what trimming and splitting
leave is what they leave alone: a name with no blank at either end (`nonBlank?_idem`), and entries
without blanks and without commas (`listed_join`).

Which entries a list has is said by `Entries`, piece by piece.
-/

namespace ModuleHooks.Config

variable {c d : Config} {k : Key} {value : Text}

/-! ## Names of callbacks -/

/-- The name that is left of a blank or padded text is read as itself. -/
theorem nonBlank?_idem (value : Text) : nonBlank? ((nonBlank? value).getD []) = nonBlank? value := by
  have htrimmed := Text.trim_of_isTrimmed (Text.exists_eq_append_trim Text.isBlank value).1
  rw [← Text.trimBlank, ← Text.trimBlank] at htrimmed
  cases hvalue : Text.trimBlank value with
  | nil =>
    have hnone : nonBlank? value = none := by rw [nonBlank?, hvalue]
    rw [hnone]
    rfl
  | cons a r =>
    have hsome : nonBlank? value = some (a :: r) := by rw [nonBlank?, hvalue]
    rw [hvalue] at htrimmed
    rw [hsome, Option.getD_some, nonBlank?, htrimmed]

/-! ## Lists -/

/-- **An entry of a list** that can be written with commas: it is not empty, has no blank at either
end, and holds no comma. -/
structure IsEntry (dir : Text) : Prop where
  ne_nil : dir ≠ []
  trimmed : Text.IsTrimmed Text.isBlank dir
  notMem : ',' ∉ dir

/-- **The entries among the pieces of a text**, in order: a blank piece is none, and of every other
one it is what stands between the blanks at its ends. -/
inductive Entries : List Text → List Text → Prop
  | nil : Entries [] []
  | blank {piece : Text} {pieces dirs : List Text} :
    (∀ a ∈ piece, Text.isBlank a = true) → Entries pieces dirs → Entries (piece :: pieces) dirs
  | entry {pre dir post : Text} {pieces dirs : List Text} :
    (∀ a ∈ pre, Text.isBlank a = true) → dir ≠ [] → Text.IsTrimmed Text.isBlank dir →
    (∀ a ∈ post, Text.isBlank a = true) → Entries pieces dirs →
    Entries ((pre ++ dir ++ post) :: pieces) (dir :: dirs)

/-- **The pieces of a text between its commas.** -/
structure IsSplit (value : Text) (pieces : List Text) : Prop where
  ne_nil : pieces ≠ []
  notMem : ∀ p ∈ pieces, ',' ∉ p
  join_eq : Text.join [','] pieces = value

theorem isSplit_splitOn (value : Text) : IsSplit value (Text.splitOn ',' value) where
  ne_nil := Text.splitOn_ne_nil ',' value
  notMem _ hp := Text.notMem_of_mem_splitOn hp
  join_eq := Text.join_splitOn ',' value

/-- A piece that is trimmed to nothing is blank. -/
theorem entries_filter_trim (pieces : List Text) :
    Entries pieces ((pieces.map Text.trimBlank).filter (· != [])) := by
  induction pieces with
  | nil => exact .nil
  | cons piece pieces ih =>
    obtain ⟨htrimmed, pre, post, hsplit, hpre, hpost⟩ :=
      Text.exists_eq_append_trim Text.isBlank piece
    rw [← Text.trimBlank] at htrimmed hsplit
    rw [List.map_cons]
    -- What the filter drops is what the blanks of the piece make up all of.
    by_cases hnil : Text.trimBlank piece = []
    · rw [List.filter_cons, if_neg (by rw [hnil]; decide)]
      refine .blank ?_ ih
      rw [hsplit, hnil, List.append_nil]
      exact List.forall_mem_append.mpr ⟨hpre, hpost⟩
    · rw [List.filter_cons, if_pos (bne_iff_ne.mpr hnil)]
      have hentry := Entries.entry hpre hnil htrimmed hpost ih
      rwa [← hsplit] at hentry

/-- The entries among pieces without commas are entries of a list. -/
theorem Entries.isEntry {pieces dirs : List Text} (h : Entries pieces dirs)
    (hpieces : ∀ p ∈ pieces, ',' ∉ p) : ∀ dir ∈ dirs, IsEntry dir := by
  induction h with
  | nil => exact fun dir hdir => absurd hdir List.not_mem_nil
  | blank _ _ ih => exact ih fun p hp => hpieces p (List.mem_cons_of_mem _ hp)
  | entry _ hne htrimmed _ _ ih =>
    -- A comma in the entry would be a comma in its piece.
    refine List.forall_mem_cons.mpr ⟨⟨hne, htrimmed, fun hcomma => ?_⟩,
      ih fun p hp => hpieces p (List.mem_cons_of_mem _ hp)⟩
    exact hpieces _ List.mem_cons_self
      (List.mem_append_left _ (List.mem_append_right _ hcomma))

/-- **A list of entries is read as it is written.** -/
theorem listed_join {dirs : List Text} (h : ∀ dir ∈ dirs, IsEntry dir) :
    listed (Text.join [','] dirs) = dirs := by
  by_cases hnil : dirs = []
  · -- What is written for no entries is a text with one piece, which is blank.
    rw [hnil]
    rfl
  have htrim : dirs.map Text.trimBlank = dirs := by
    conv_rhs => rw [← List.map_id dirs]
    exact List.map_congr_left fun dir hdir => Text.trim_of_isTrimmed (h dir hdir).trimmed
  rw [listed, Text.splitOn_join hnil fun dir hdir => (h dir hdir).notMem, htrim]
  exact List.filter_eq_self.mpr fun dir hdir => bne_iff_ne.mpr (h dir hdir).ne_nil

theorem isEntry_of_mem_listed : ∀ dir ∈ listed value, IsEntry dir :=
  (entries_filter_trim _).isEntry (isSplit_splitOn value).notMem

/-! ## All values -/

/-- A choice is made by its own name. -/
theorem choice_name {α : Type} {name : α → Text} {all : List α} {a : α} (key : Key)
    (hall : (all.find? fun b => name b == name a) = some a) :
    choice name all key (name a) = .ok a := by
  rw [choice, hall]

/-- **What a value is written as is read as the value**, if the value came from a text. -/
theorem fromText_render {x : k.Value} (hx : fromText k value = .ok x) (c : Config) :
    fromText k ((c.put k x).render k) = .ok x := by
  cases k with
  | classNaming => exact choice_name .classNaming (ClassNaming.find?_all x)
  | localsConvention => exact choice_name .localsConvention (LocalsConvention.find?_all x)
  | assetExport => exact choice_name .assetExport (AssetExport.find?_all x)
  | onCssImported | onCss =>
    cases hx
    exact congrArg Except.ok (nonBlank?_idem value)
  | outputDirs =>
    cases hx
    exact congrArg Except.ok (listed_join isEntry_of_mem_listed)
  | sourceDir => rfl

theorem put_put (c : Config) (k : Key) (x y : k.Value) : (c.put k x).put k y = c.put k y := by
  cases k <;> rfl

/-- **The textual form of a value is stable.** When a key has been set, the textual form of its
field can be set as well, and it changes nothing any more.

A list is always set. Its entries are what is left of the pieces between the commas, in order,
when the blanks at the ends of each are dropped, and then the pieces that are empty. So no entry
is empty, has a blank at an end or holds a comma. -/
theorem set_render (c : Config) (key value : Text) :
    (∀ d, c.set key value = .ok d → ∃ k : Key, k.name = key ∧ d.set key (d.render k) = .ok d)
      ∧ ∃ d, c.set Key.outputDirs.name value = .ok d
        ∧ (∀ dir ∈ d.outputDirs, IsEntry dir)
        ∧ ∃ pieces, IsSplit value pieces ∧ Entries pieces d.outputDirs := by
  constructor
  · intro d hd
    rcases set_cases key value with ⟨k, x, rfl, hx, hset⟩ | ⟨-, why, hset⟩
    · obtain rfl := Except.ok.inj ((hset c).symm.trans hd)
      refine ⟨k, rfl, ?_⟩
      rw [set_name, fromText_render hx]
      exact congrArg Except.ok (put_put c k x x)
    · rw [hset] at hd
      cases hd
  · exact ⟨{ c with outputDirs := listed value }, set_name c .outputDirs value,
      isEntry_of_mem_listed, _, isSplit_splitOn value, entries_filter_trim _⟩

/-- A list with blanks, a blank piece and an empty one, and a callback that is blank. -/
example :
    listed " dist ,, build\u00a0,\t".toList = ["dist".toList, "build".toList]
      ∧ nonBlank? " \u2003".toList = none := by
  decide

end ModuleHooks.Config
