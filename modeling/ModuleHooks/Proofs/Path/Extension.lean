import ModuleHooks.Proofs.Path.Steps
/-!
# A path with another extension

The file behind a path is renamed by going to the pieces of the path and putting other
pieces together. That the rest of the text comes out as it was written is not a matter
of course: a path may begin with `.`, hold empty segments, or be relative. It does,
because a path is put together again from what it was taken apart into, and what is
written at its end is written at the end of its last segment
(`assemble_concat_append`).

There is one name that does not get its new extension. The old one is cut off before
the name is looked at, and what a dot and an extension leave behind are two dots: the
name of the directory above (`withExtension_append_cons`).
-/

namespace ModuleHooks.Path

/-- **A path is put together again** from its front and its segments. -/
theorem assemble_dissect (p : Path) : assemble (dissect p).1 (dissect p).2 = p := by
  unfold dissect
  split
  · next r => exact congrArg (List.cons '/') (Text.join_splitOn '/' r)
  · split
    · next segments hsplit =>
      have hjoin : Text.join ['/'] (['.'] :: segments) = p := by
        rw [← hsplit, Text.join_splitOn]
      cases segments with
      | nil => exact hjoin
      | cons s segments =>
        rw [Text.join_cons _ (List.cons_ne_nil s segments)] at hjoin
        exact hjoin
    · exact Text.join_splitOn '/' p

/-- **What is written at the end of a path** is written at the end of its last segment. -/
theorem assemble_concat_append (front : Front) (segments : List Text) (s more : Text) :
    assemble front (segments ++ [s]) ++ more = assemble front (segments ++ [s ++ more]) := by
  have hjoin := Text.join_concat_append '/' segments s more
  cases front with
  | none => exact hjoin
  | root => exact congrArg (List.cons '/') hjoin
  | current =>
    cases segments with
    | nil => exact congrArg (fun r => '.' :: '/' :: r) hjoin
    | cons t segments => exact congrArg (fun r => '.' :: '/' :: r) hjoin

/-- The last of the segments is what follows the last slash, unless that is idle. -/
theorem exists_dissect_concat {p : Path} {s : Text} (hlast : Text.lastPiece (· == '/') p = s)
    (hs : isIdle s = false) : ∃ segments, (dissect p).2 = segments ++ [s] := by
  have hpieces : ∀ t : Text, Text.lastPiece (· == '/') t = s →
      ∃ pieces, Text.splitOn '/' t = pieces ++ [s] := by
    intro t ht
    obtain ⟨pieces, last, hsplit⟩ :=
      (List.eq_nil_or_concat' _).resolve_left (Text.splitOn_ne_nil '/' t)
    have hget : ((Text.splitOn '/' t).getLast?).getD [] = s := ht
    rw [hsplit, List.getLast?_concat, Option.getD_some] at hget
    exact ⟨pieces, hget ▸ hsplit⟩
  unfold dissect
  split
  · next r =>
    refine hpieces r ?_
    have hroot : Text.lastPiece (· == '/') ([] ++ '/' :: r) = Text.lastPiece (· == '/') r :=
      Text.lastPiece_append_cons rfl [] r
    rw [← hlast]
    exact hroot.symm
  · obtain ⟨pieces, hsplit⟩ := hpieces p hlast
    split
    · next segments hcurrent =>
      -- The `.` at the front is not the last segment.
      cases pieces with
      | nil =>
        rw [hcurrent] at hsplit
        obtain ⟨hdot, -⟩ := List.cons_eq_cons.mp hsplit
        rw [← hdot] at hs
        exact absurd hs (by decide)
      | cons piece pieces =>
        rw [hcurrent] at hsplit
        exact ⟨pieces, (List.cons_eq_cons.mp hsplit).2⟩
    · exact ⟨pieces, hsplit⟩

/-! ## Names with a dot -/

/-- A name is parted at its last dot, unless it begins there. -/
theorem partName_append_cons {stem extension : Text} (hne : stem ≠ []) (hdot : '.' ∉ extension) :
    partName (stem ++ '.' :: extension) = (stem, some extension) := by
  rw [partName, Text.splitLast?_append_cons stem hdot]
  obtain ⟨c, r, rfl⟩ := List.exists_cons_of_ne_nil hne
  rfl

section Name

variable {front extension stem : Text} (hlast : Text.lastPiece (· == '/') front = stem)

include hlast

/-- What is written behind a dot at the end of a path belongs to its last segment. -/
theorem lastPiece_append_dot (hslash : '/' ∉ extension) :
    Text.lastPiece (· == '/') (front ++ '.' :: extension) = stem ++ '.' :: extension := by
  rw [← hlast]
  refine Text.lastPiece_append (fun c hc => ?_) front
  rw [beq_eq_false_iff_ne]
  rintro rfl
  rcases List.mem_cons.mp hc with h | h
  · exact absurd h (by decide)
  · exact hslash h

/-- **A name in front of a dot and an extension** is a file name with them, whatever the
name is. -/
theorem fileName?_append_dot (hne : stem ≠ []) (hext : extension ≠ []) (hslash : '/' ∉ extension) :
    fileName? (front ++ '.' :: extension) = some (stem ++ '.' :: extension) := by
  have hpiece := lastPiece_append_dot hlast hslash
  have hlong : 3 ≤ (stem ++ '.' :: extension).length := by
    have hstem := List.length_pos_iff.mpr hne
    have hext := List.length_pos_iff.mpr hext
    rw [List.length_append, List.length_cons]
    omega
  have hstep : IsStep (stem ++ '.' :: extension) := by
    refine ⟨isIdle_eq_false_iff.mpr ⟨fun h => ?_, fun h => ?_⟩, fun h => ?_⟩
    · rw [h] at hlong
      exact absurd hlong (by decide)
    · rw [h] at hlong
      exact absurd hlong (by decide)
    · rw [← hpiece] at h
      exact Text.notMem_lastPiece '/' _ h
  refine fileName?_of_lastPiece hpiece hstep fun h => ?_
  rw [h] at hlong
  exact absurd hlong (by decide)

/-- The stem of such a file name is the name. -/
theorem stem?_append_dot (hne : stem ≠ []) (hext : extension ≠ []) (hdot : '.' ∉ extension)
    (hslash : '/' ∉ extension) : stem? (front ++ '.' :: extension) = some stem := by
  rw [stem?, fileName?_append_dot hlast hne hext hslash, Option.map_some,
    partName_append_cons hne hdot]

end Name

/-- **Two dots for a name** are none: they lead to the directory above. -/
theorem fileName?_append_up {front : Path} (hlast : Text.lastPiece (· == '/') front = ['.']) :
    fileName? (front ++ ['.']) = none := by
  obtain ⟨names, hnames⟩ :=
    exists_steps_of_lastPiece (lastPiece_append_dot hlast List.not_mem_nil) (by decide)
  rw [fileName?_eq, hnames, List.getLast?_concat]
  rfl

/-! ## Another extension -/

/-- **A name that ends in a dot** gets its extension behind the dot. -/
theorem replaceAfterStem_of_lastPiece {p : Path} {stem : Text}
    (hlast : Text.lastPiece (· == '/') p = stem ++ ['.']) (hne : stem ≠ []) (hdot : stem ≠ ['.'])
    (extension : Text) : replaceAfterStem p extension = p ++ extension := by
  have hslash : '/' ∉ stem ++ ['.'] := by
    rw [← hlast]
    exact Text.notMem_lastPiece '/' p
  have hidle : isIdle (stem ++ ['.']) = false := by
    refine isIdle_eq_false_iff.mpr ⟨List.append_ne_nil_of_right_ne_nil _ (by decide), ?_⟩
    exact fun h => hne (List.append_cancel_right (h.trans (List.nil_append ['.']).symm))
  have habove : stem ++ ['.'] ≠ ['.', '.'] := fun h => hdot (List.append_cancel_right h)
  have hstem : stem? p = some stem := by
    rw [stem?, fileName?_of_lastPiece hlast ⟨hidle, hslash⟩ habove, Option.map_some,
      partName_append_cons hne List.not_mem_nil]
  obtain ⟨segments, hsegments⟩ := exists_dissect_concat hlast hidle
  -- The name is the last segment as it is written: nothing idle stands behind it.
  have hkept := dropIdleEnd_concat hidle segments
  have hp : assemble (dissect p).1 (segments ++ [stem ++ ['.']]) = p := by
    rw [← hsegments, assemble_dissect]
  have hname : stem ++ '.' :: extension = stem ++ ['.'] ++ extension := by
    rw [List.append_assoc, List.singleton_append]
  rw [replaceAfterStem, hstem]
  show assemble (dissect p).1 ((dropIdleEnd (dissect p).2).dropLast ++ [stem ++ '.' :: extension])
    = p ++ extension
  rw [hsegments, hkept, List.dropLast_concat, hname, ← assemble_concat_append, hp]

/-- **A path with another extension**, which a dot for a name does not get. -/
theorem withExtension_append_cons {front old stem : Text} (hold : old ≠ []) (hdot : '.' ∉ old)
    (hslash : '/' ∉ old) (hlast : Text.lastPiece (· == '/') front = stem) (hne : stem ≠ [])
    (extension : Text) :
    withExtension (front ++ '.' :: old) extension
      = if stem = ['.'] then front ++ ['.'] else front ++ '.' :: extension := by
  have hextension : extension? (front ++ '.' :: old) = some old := by
    rw [extension?, fileName?_append_dot hlast hne hold hslash, Option.bind_some,
      partName_append_cons hne hdot]
  have hcut : (front ++ '.' :: old).take ((front ++ '.' :: old).length - old.length)
      = front ++ ['.'] := by
    have hsplit : front ++ '.' :: old = (front ++ ['.']) ++ old := by
      rw [List.append_assoc, List.singleton_append]
    rw [hsplit, List.length_append, Nat.add_sub_cancel, List.take_left]
  have hleft := lastPiece_append_dot hlast List.not_mem_nil
  rw [withExtension, hextension]
  show replaceAfterStem (List.take _ _) extension = _
  rw [hcut]
  split_ifs with hup
  · -- What is left of the name leads to the directory above, which has no stem.
    rw [replaceAfterStem, stem?, fileName?_append_up (hlast.trans hup)]
    rfl
  · rw [replaceAfterStem_of_lastPiece hleft hne hup, List.append_assoc, List.singleton_append]

end ModuleHooks.Path
