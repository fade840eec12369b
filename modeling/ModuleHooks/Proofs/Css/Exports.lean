import ModuleHooks.Css.Transform
import ModuleHooks.Proofs.Text.SortedMap
/-!
# What a stylesheet exports

The exports of a stylesheet grow while it is written, piece by piece, and each piece may
change many of them. Seen from one local name it is much simpler: the name is exported from
the first piece that has it on, and from there on each composition of its class adds the
references that the export does not have yet (`lookup?_piece`). So the export of a name can
be told from the pieces alone (`lookup?_render`), without those of other names.
-/

namespace ModuleHooks.Css

/-- The local name that a piece exports. -/
def Piece.exportedName? : Piece → Option Text
  | .local name => some name
  | .gridLine name => some name
  | _ => none

namespace Scoping

/-- References with more of them at the end, each of them once. -/
def gather (references more : List Reference) : List Reference :=
  more.foldl (fun l r => if l.contains r then l else l ++ [r]) references

/-- **The references that a piece gives to a class.** -/
def mentions (s : Scoping) (name : Text) : Piece → List Reference
  | .composition of names source isGlobal =>
    if of = name then names.map fun x => s.reference x source isGlobal else []
  | _ => []

/-- The export of a name after one more piece. -/
def exportStep (s : Scoping) (name : Text) (e : Option Export) (p : Piece) : Option Export :=
  match e with
  | some e => some { e with composes := gather e.composes (s.mentions name p) }
  | none => if p.exportedName? = some name then some { name := s.scopedName name } else none

/-- **The export of a name** in what is written of a stylesheet. -/
def exported (s : Scoping) (name : Text) (w : Written) : Option Export :=
  w.foldl (s.exportStep name) none

/-- **The references of a class** in what is written of a stylesheet. -/
def references (s : Scoping) (name : Text) (w : Written) : List Reference :=
  ((s.exported name w).map Export.composes).getD []

variable {s : Scoping} {name : Text} {exports exports' : Exports} {w : Written}

/-! ## References -/

@[simp] theorem gather_nil (references : List Reference) : gather references [] = references := rfl

theorem gather_singleton (references : List Reference) (r : Reference) :
    gather references [r] = if references.contains r then references else references ++ [r] := rfl

theorem gather_append (references more others : List Reference) :
    gather references (more ++ others) = gather (gather references more) others :=
  List.foldl_append

/-- **What is gathered** are the references that were there and those that are new. -/
theorem mem_gather_iff {references more : List Reference} {r : Reference} :
    r ∈ gather references more ↔ r ∈ references ∨ r ∈ more := by
  induction more generalizing references with
  | nil => exact (or_iff_left List.not_mem_nil).symm
  | cons x more ih =>
    show r ∈ gather (if references.contains x then references else references ++ [x]) more ↔ _
    rw [ih, List.mem_cons]
    split_ifs with hx
    · refine ⟨fun h => h.imp_right Or.inr, fun h => ?_⟩
      rcases h with h | rfl | h
      · exact Or.inl h
      · exact Or.inl (List.contains_iff_mem.mp hx)
      · exact Or.inr h
    · rw [List.mem_append, List.mem_singleton, or_assoc]

/-! ## One piece -/

/-- A local name is exported once it is met. -/
theorem lookup?_addLocal (x : Text) :
    Text.lookup? name (s.addLocal x exports)
      = (Text.lookup? name exports).or
          (if x = name then some { name := s.scopedName name } else none) := by
  unfold addLocal
  split_ifs with hany hx hx
  · obtain ⟨e, he, hname⟩ := List.any_eq_true.mp hany
    have hsome : (Text.lookup? name exports).isSome :=
      Text.mem_keys_iff.mp (List.mem_map.mpr ⟨e, he, (beq_iff_eq.mp hname).trans hx⟩)
    rw [Option.or_of_isSome hsome]
  · rw [Option.or_none]
  · rw [Text.lookup?_append, Text.lookup?_cons, if_pos hx, hx]
  · rw [Text.lookup?_append, Text.lookup?_cons, if_neg hx, Text.lookup?_nil]

/-- A reference is added to the export of its class. -/
theorem lookup?_addReference (x : Text) (r : Reference) :
    Text.lookup? name (addReference x r exports)
      = (Text.lookup? name exports).map fun e =>
          { e with composes := gather e.composes (if x = name then [r] else []) } := by
  have hmap : addReference x r exports = exports.map fun e =>
      (e.1, { e.2 with composes := gather e.2.composes (if x = e.1 then [r] else []) }) := by
    refine List.map_congr_left (fun e _ => ?_)
    by_cases hx : e.1 = x
    · rw [if_pos hx.symm, gather_singleton, decide_eq_true hx, Bool.true_and]
      cases e.2.composes.contains r <;> rfl
    · rw [if_neg (Ne.symm hx), decide_eq_false hx, Bool.false_and, gather_nil]
      rfl
  rw [hmap]
  exact Text.lookup?_map (fun k (e : Export) =>
    { e with composes := gather e.composes (if x = k then [r] else []) }) name exports

/-- References are added to the export of their class one after the other. -/
theorem lookup?_addReferences (x : Text) (rs : List Reference) :
    Text.lookup? name (rs.foldl (fun l r => addReference x r l) exports)
      = (Text.lookup? name exports).map fun e =>
          { e with composes := gather e.composes (if x = name then rs else []) } := by
  induction rs generalizing exports with
  | nil =>
    rw [ite_self]
    exact Option.map_id'.symm
  | cons r rs ih =>
    rw [List.foldl_cons, ih, lookup?_addReference, Option.map_map]
    refine congrArg (fun f => Option.map f _) (funext fun e => ?_)
    dsimp only [Function.comp_apply]
    rw [← gather_append]
    split_ifs <;> rfl

/-- Most pieces leave the export of a name as it is. -/
theorem exportStep_eq_self {p : Piece} (hname : p.exportedName? ≠ some name)
    (hmentions : s.mentions name p = []) (e : Option Export) : s.exportStep name e p = e := by
  cases e with
  | none => exact if_neg hname
  | some e => rw [exportStep, hmentions, gather_nil]

/-- A piece that exports a name makes an export of its own if there is none. -/
theorem exportStep_of_exportedName? {p : Piece} {x : Text} (hname : p.exportedName? = some x)
    (hmentions : s.mentions name p = []) (e : Option Export) :
    s.exportStep name e p
      = e.or (if x = name then some { name := s.scopedName name } else none) := by
  cases e with
  | none => simp only [exportStep, hname, Option.some_inj, Option.none_or]
  | some e => rw [exportStep, hmentions, gather_nil, Option.some_or]

/-- **One piece** takes the export of a name one step further. -/
theorem lookup?_piece {p : Piece} {t : Text} (h : piece (some s) exports p = .ok (t, exports')) :
    Text.lookup? name exports' = s.exportStep name (Text.lookup? name exports) p := by
  cases p with
  | text _ =>
    cases h
    exact (exportStep_eq_self (fun h => by cases h) rfl _).symm
  | lineBreak _ =>
    cases h
    exact (exportStep_eq_self (fun h => by cases h) rfl _).symm
  | «local» x =>
    cases h
    rw [lookup?_addLocal, exportStep_of_exportedName? rfl rfl]
  | gridLine x =>
    dsimp only [piece] at h
    split_ifs at h
    cases h
    rw [lookup?_addLocal, exportStep_of_exportedName? rfl rfl]
  | composition of names source isGlobal =>
    cases h
    rw [← List.foldl_map (f := fun x => s.reference x source isGlobal)
        (g := fun l r => addReference of r l),
      lookup?_addReferences]
    cases Text.lookup? name exports <;> rfl
  | fault f => cases h

/-! ## All pieces -/

/-- **The export of a name can be told from the pieces alone.** -/
theorem lookup?_render {texts : List Text}
    (h : render (some s) exports w = .ok (texts, exports')) :
    Text.lookup? name exports' = w.foldl (s.exportStep name) (Text.lookup? name exports) := by
  induction w generalizing exports texts with
  | nil =>
    cases h
    rfl
  | cons p w ih =>
    rw [render] at h
    split at h
    · cases h
    · next hpiece =>
      split at h
      · cases h
      · next hrest =>
        cases h
        rw [ih hrest, lookup?_piece hpiece, List.foldl_cons]

/-- A composition exports no further names. -/
theorem keys_addReference (x : Text) (r : Reference) (exports : Exports) :
    (addReference x r exports).map Prod.fst = exports.map Prod.fst := by
  rw [addReference, List.map_map]
  refine List.map_congr_left (fun e _ => ?_)
  dsimp only [Function.comp_apply]
  split_ifs <;> rfl

theorem nodup_addLocal (x : Text) (hnames : (exports.map Prod.fst).Nodup) :
    ((s.addLocal x exports).map Prod.fst).Nodup := by
  unfold addLocal
  split_ifs with hany
  · exact hnames
  · rw [List.map_append]
    refine List.nodup_append.mpr ⟨hnames, List.nodup_singleton _, ?_⟩
    rintro _ hmem y hy rfl
    obtain ⟨e, he, rfl⟩ := List.mem_map.mp hmem
    exact hany (List.any_eq_true.mpr ⟨e, he, beq_iff_eq.mpr (List.mem_singleton.mp hy)⟩)

/-- One piece exports no name twice. -/
theorem nodup_piece {p : Piece} {t : Text} (h : piece (some s) exports p = .ok (t, exports'))
    (hnames : (exports.map Prod.fst).Nodup) : (exports'.map Prod.fst).Nodup := by
  cases p with
  | text _ =>
    cases h
    exact hnames
  | lineBreak _ =>
    cases h
    exact hnames
  | «local» x =>
    cases h
    exact nodup_addLocal x hnames
  | gridLine x =>
    dsimp only [piece] at h
    split_ifs at h
    cases h
    exact nodup_addLocal x hnames
  | composition of names source isGlobal =>
    cases h
    induction names generalizing exports with
    | nil => exact hnames
    | cons x names ih => exact ih (by rw [keys_addReference]; exact hnames)
  | fault f => cases h

/-- **No name is exported twice.** -/
theorem nodup_render {texts : List Text}
    (h : render (some s) exports w = .ok (texts, exports'))
    (hnames : (exports.map Prod.fst).Nodup) : (exports'.map Prod.fst).Nodup := by
  induction w generalizing exports texts with
  | nil =>
    cases h
    exact hnames
  | cons p w ih =>
    rw [render] at h
    split at h
    · cases h
    · next hpiece =>
      split at h
      · cases h
      · next hrest =>
        cases h
        exact ih hrest (nodup_piece hpiece hnames)

/-! ## Classes that compose -/

/-- Once a name is exported, all that follows only adds references. -/
theorem foldl_exportStep_some (e : Export) (w : Written) :
    w.foldl (s.exportStep name) (some e)
      = some { e with composes := gather e.composes (w.flatMap (s.mentions name)) } := by
  induction w generalizing e with
  | nil => rfl
  | cons p w ih =>
    rw [List.foldl_cons, exportStep, ih, List.flatMap_cons, gather_append]

/-- **An exported name** has its scoped name and its references. -/
theorem exported_eq_none_or (s : Scoping) (name : Text) (w : Written) :
    s.exported name w = none ∨ s.exported name w
      = some { name := s.scopedName name, composes := s.references name w } := by
  have hname : ∀ w : Written, w.foldl (s.exportStep name) none = none ∨
      ∃ composes, w.foldl (s.exportStep name) none = some ⟨s.scopedName name, composes⟩ := by
    intro w
    induction w with
    | nil => exact Or.inl rfl
    | cons p w ih =>
      rw [List.foldl_cons, exportStep]
      split_ifs
      · exact Or.inr ⟨_, foldl_exportStep_some _ w⟩
      · exact ih
  refine (hname w).imp_right (fun ⟨composes, h⟩ => ?_)
  have hexported : s.exported name w = some ⟨s.scopedName name, composes⟩ := h
  rw [references, hexported]
  rfl

/-- A name that is written is exported. -/
theorem exported_ne_none_of_mem (h : .local name ∈ w) : s.exported name w ≠ none := by
  obtain ⟨front, back, rfl⟩ := List.append_of_mem h
  rw [exported, List.foldl_append, List.foldl_cons, exportStep_of_exportedName? rfl rfl, if_pos rfl,
    Option.or_some, foldl_exportStep_some]
  exact Option.some_ne_none _

/-- **A composition behind the name of its class** gives it the references that it makes. -/
theorem mem_references_of_sublist {p : Piece} (h : List.Sublist [.local name, p] w)
    {r : Reference} (hr : r ∈ s.mentions name p) : r ∈ s.references name w := by
  obtain ⟨front, back, rfl, hname, hp⟩ := List.cons_sublist_iff.mp h
  obtain ⟨e, he⟩ := Option.ne_none_iff_exists'.mp (exported_ne_none_of_mem hname)
  rw [exported] at he
  rw [references, exported, List.foldl_append, he, foldl_exportStep_some, Option.map_some,
    Option.getD_some]
  exact mem_gather_iff.mpr
    (Or.inr (List.mem_flatMap.mpr ⟨p, List.singleton_sublist.mp hp, hr⟩))

end Scoping

end ModuleHooks.Css
