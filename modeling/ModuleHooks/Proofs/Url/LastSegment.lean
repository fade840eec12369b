import ModuleHooks.Proofs.Specifier.Extension
import ModuleHooks.Proofs.Url.Relative
/-!
# The class of the last segment

A path of a URL is put into normal form segment by segment, and the file path
is decoded from the result. What happens to the *last* segment on the way is
little: it is encoded and decoded again, it is replaced by an empty one if it
stands for a directory, and a drive letter is put into normal form. None of
this changes its class, so the class of the file path is that of the path as it
was written, decoded (`classify_pathAfter`).
-/

namespace ModuleHooks.Url

open Specifier (classify classify_append_cons classify_concat)

/-! ## Decoded segments -/

/-- The encoded characters of a segment are never those of a triple. -/
theorem keeps_pathSet : Percent.Keeps Percent.pathSet := Percent.keeps_of_forall_ascii (by decide)

/-- **Only what follows the last slash counts**, also after decoding. -/
theorem classify_decode_append_cons {c : Char} (hc : Specifier.isSlash c = true) (s t : Text) :
    classify (Percent.decode (s ++ c :: t)) = classify (Percent.decode t) := by
  have hslash : c = '/' ∨ c = '\\' := by
    simpa [Specifier.isSlash] using hc
  have hsplit : Percent.decode (s ++ c :: t) = Percent.decode s ++ c :: Percent.decode t := by
    rcases hslash with rfl | rfl
    · exact Percent.decode_append_cons (by decide) (by decide) (by decide) s t
    · exact Percent.decode_append_cons (by decide) (by decide) (by decide) s t
  rw [hsplit, classify_append_cons hc]

theorem classify_decode_cons {c : Char} (hc : Specifier.isSlash c = true) (t : Text) :
    classify (Percent.decode (c :: t)) = classify (Percent.decode t) :=
  classify_decode_append_cons hc [] t

/-- A drive letter has no extension. -/
theorem classify_decode_of_drive {a b : Char} (ha : a.isAlpha = true) (hb : b = ':' ∨ b = '|') :
    classify (Percent.decode [a, b]) = .notIntercepted := by
  have hpercent : '%' ∉ [a, b] := by
    rw [List.mem_cons, List.mem_singleton]
    rintro (rfl | rfl)
    · exact absurd ha (by decide)
    · exact absurd hb (by decide)
  rw [Percent.decode_eq_self hpercent]
  rcases hb with rfl | rfl
  · exact classify_concat [a] (by decide)
  · exact classify_concat [a] (by decide)

theorem exists_of_isDrive {s : Text} (h : isDrive s = true) :
    ∃ a b, s = [a, b] ∧ a.isAlpha = true ∧ (b = ':' ∨ b = '|') := by
  unfold isDrive at h
  split at h
  · next a b =>
    rw [Bool.and_eq_true, Bool.or_eq_true, beq_iff_eq, beq_iff_eq] at h
    exact ⟨a, b, rfl, h.1, h.2⟩
  · cases h

/-- A hexadecimal digit is written in either case. -/
theorem eq_or_eq_of_toLower {c : Char} (h : c.toLower = 'e') : c = 'e' ∨ c = 'E' := by
  by_cases hascii : c.toNat < 128
  · have himp := Text.forall_ascii (p := fun c => c.toLower != 'e' || c == 'e' || c == 'E')
      (by decide) hascii
    simpa [h] using himp
  · rw [Text.toLower_of_not_ascii (Nat.not_lt.mp hascii)] at h
    exact Or.inl h

/-- A dot in front of a segment is decoded as a dot. -/
theorem decodeBytes_of_dot {s t : Text} (h : Text.lowerAscii s = '.' :: t) :
    ∃ r, Text.lowerAscii r = t ∧ Percent.decodeBytes s = 46 :: Percent.decodeBytes r := by
  obtain ⟨c, r, rfl, hc, hr⟩ := List.map_eq_cons_iff.mp h
  rw [(Text.toLower_eq_iff (by decide)).mp hc]
  exact ⟨r, hr, Percent.decodeBytes_cons (by decide) r⟩

/-- An encoded dot in front of a segment is decoded as a dot. -/
theorem decodeBytes_of_encodedDot {s t : Text} (h : Text.lowerAscii s = '%' :: '2' :: 'e' :: t) :
    ∃ r, Text.lowerAscii r = t ∧ Percent.decodeBytes s = 46 :: Percent.decodeBytes r := by
  obtain ⟨c, s, rfl, hc, hs⟩ := List.map_eq_cons_iff.mp h
  obtain ⟨d, s, rfl, hd, hs⟩ := List.map_eq_cons_iff.mp hs
  obtain ⟨e, r, rfl, he, hr⟩ := List.map_eq_cons_iff.mp hs
  rw [(Text.toLower_eq_iff (by decide)).mp hc, (Text.toLower_eq_iff (by decide)).mp hd]
  refine ⟨r, hr, ?_⟩
  rcases eq_or_eq_of_toLower he with rfl | rfl
  · rw [Percent.decodeBytes]
    rfl
  · rw [Percent.decodeBytes]
    rfl

/-- The directory itself is one dot, encoded or not. -/
theorem decode_of_isHere {s : Text} (h : isHere s = true) : Percent.decode s = ['.'] := by
  have hbytes : Percent.decodeBytes s = [46] := by
    rw [isHere, List.contains_iff_mem] at h
    simp only [List.mem_cons, List.not_mem_nil, or_false] at h
    rcases h with h | h
    · obtain ⟨r, hr, hs⟩ := decodeBytes_of_dot h
      rw [hs, List.map_eq_nil_iff.mp hr, Percent.decodeBytes_nil]
    · obtain ⟨r, hr, hs⟩ := decodeBytes_of_encodedDot h
      rw [hs, List.map_eq_nil_iff.mp hr, Percent.decodeBytes_nil]
  rw [Percent.decode, hbytes]
  decide

/-- The directory above is two dots, each of them encoded or not. -/
theorem decode_of_isAbove {s : Text} (h : isAbove s = true) : Percent.decode s = ['.', '.'] := by
  have hbytes : Percent.decodeBytes s = [46, 46] := by
    have hdot : ∀ {r : Text}, (Text.lowerAscii r = ['.'] ∨ Text.lowerAscii r = "%2e".toList) →
        Percent.decodeBytes r = [46] := by
      rintro r (hr | hr)
      · obtain ⟨q, hq, hr⟩ := decodeBytes_of_dot hr
        rw [hr, List.map_eq_nil_iff.mp hq, Percent.decodeBytes_nil]
      · obtain ⟨q, hq, hr⟩ := decodeBytes_of_encodedDot hr
        rw [hr, List.map_eq_nil_iff.mp hq, Percent.decodeBytes_nil]
    rw [isAbove, List.contains_iff_mem] at h
    simp only [List.mem_cons, List.not_mem_nil, or_false] at h
    rcases h with h | h | h | h
    · obtain ⟨r, hr, hs⟩ := decodeBytes_of_dot h
      rw [hs, hdot (Or.inl hr)]
    · obtain ⟨r, hr, hs⟩ := decodeBytes_of_dot h
      rw [hs, hdot (Or.inr hr)]
    · obtain ⟨r, hr, hs⟩ := decodeBytes_of_encodedDot h
      rw [hs, hdot (Or.inl hr)]
    · obtain ⟨r, hr, hs⟩ := decodeBytes_of_encodedDot h
      rw [hs, hdot (Or.inr hr)]
  rw [Percent.decode, hbytes]
  decide

/-- **A segment that stands for a directory has no extension.** -/
theorem classify_decode_of_dots {s : Text} (h : (isAbove s || isHere s) = true) :
    classify (Percent.decode s) = .notIntercepted := by
  rcases (Bool.or_eq_true _ _).mp h with h | h
  · rw [decode_of_isAbove h]
    decide
  · rw [decode_of_isHere h]
    decide

/-! ## The last segment -/

/-- Empty segments at the front are dropped, but not the last one. -/
theorem getLast?_dropEmptyFront {segments : List Text} (h : segments ≠ []) :
    (dropEmptyFront segments).getLast? = segments.getLast? := by
  unfold dropEmptyFront
  split
  · next hnil =>
    have hall : ∀ s ∈ segments, s = [] := fun s hs =>
      beq_iff_eq.mp (List.dropWhile_eq_nil_iff.mp hnil s hs)
    obtain ⟨front, last, rfl⟩ := (List.eq_nil_or_concat' segments).resolve_left h
    rw [List.getLast?_concat, hall last (List.mem_append_right front List.mem_cons_self)]
    rfl
  · next hne =>
    obtain ⟨front, last, hlast⟩ := (List.eq_nil_or_concat' _).resolve_left hne
    have hsplit := List.takeWhile_append_dropWhile (p := (· == ([] : Text))) (l := segments)
    rw [hlast] at hsplit ⊢
    rw [← hsplit, ← List.append_assoc, List.getLast?_concat, List.getLast?_concat]

/-- **What the last segment becomes**: itself, an empty one, or a drive letter in
normal form. -/
theorem getLast?_normalSegments (stack front : List Text) (s : Text) :
    ∃ last, (normalSegments true stack (front ++ [s])).getLast? = some last
      ∧ (last = s ∨ ((isAbove s || isHere s) = true ∧ last = [])
        ∨ (isDrive s = true ∧ last = s.take 1 ++ [':'])) := by
  -- Whatever the segments in front leave on the stack, the last one is put on top of it.
  induction front generalizing stack with
  | nil =>
    rw [List.nil_append, normalSegments]
    by_cases hdots : (isAbove s || isHere s) = true
    · rw [if_pos hdots, List.reverse_cons, List.getLast?_concat]
      exact ⟨[], rfl, Or.inr (Or.inl ⟨hdots, rfl⟩)⟩
    · obtain ⟨habove, hhere⟩ :=
        Bool.or_eq_false_iff.mp (Bool.eq_false_of_not_eq_true hdots)
      rw [if_neg hdots, pushSegment, habove, hhere]
      simp only [Bool.false_eq_true, if_false]
      split_ifs with hdrive
      · rw [Bool.and_eq_true] at hdrive
        exact ⟨_, rfl, Or.inr (Or.inr ⟨hdrive.2, rfl⟩)⟩
      · exact ⟨s, by rw [List.reverse_cons, List.getLast?_concat], Or.inl rfl⟩
  | cons t front ih =>
    rw [List.cons_append, normalSegments_cons _ _ _
      (List.append_ne_nil_of_right_ne_nil front (List.cons_ne_nil s []))]
    exact ih _

/-- A path that ends in a drive letter has no extension, with or without the
slash. -/
theorem classify_closeDrive (p : Path) : classify (closeDrive p) = classify p := by
  unfold closeDrive
  split
  · next hdrive =>
    have hend : ∃ r b, p = r ++ [b] ∧ (b = ':' ∨ b = '|') := by
      unfold endsInDrive at hdrive
      split at hdrive
      · next b a c r hrev =>
        refine ⟨(a :: c :: r).reverse, b, ?_, ?_⟩
        · rw [← List.reverse_cons, ← hrev, List.reverse_reverse]
        · rw [Bool.and_eq_true, Bool.or_eq_true, beq_iff_eq, beq_iff_eq] at hdrive
          exact hdrive.2
      · cases hdrive
    have hempty : classify (p ++ ['/']) = .notIntercepted := classify_append_cons rfl p []
    rw [hempty]
    obtain ⟨r, b, rfl, rfl | rfl⟩ := hend
    · exact (classify_concat r (by decide)).symm
    · exact (classify_concat r (by decide)).symm
  · rfl

/-- The class of a path of segments is that of the last one, decoded. -/
theorem classify_segmentPath {segments : List Text} {last : Text}
    (h : segments.getLast? = some last) :
    classify (segmentPath segments) = classify (Percent.decode last) := by
  obtain ⟨front, rfl⟩ := List.getLast?_eq_some_iff.mp h
  rw [segmentPath, classify_closeDrive, List.flatMap_append, List.flatMap_singleton,
    classify_append_cons rfl]

/-- The class of a settled path is that of its last step. -/
theorem classify_settle {p : Path} {last : Text} (h : (Path.steps p).getLast? = some last) :
    classify (settle p) = classify last := by
  obtain ⟨front, hfront⟩ := List.getLast?_eq_some_iff.mp h
  rw [settle, classify_closeDrive, hfront, Path.rooted_eq_flatMap (by simp), List.flatMap_append,
    List.flatMap_singleton, classify_append_cons rfl]

/-- **The class of a path is that of its text as it was written**, decoded:
putting its segments into normal form changes nothing about it. -/
theorem classify_pathAfter (stack : List Text) (t : Text) :
    classify (segmentPath (pathAfter "file" stack t)) = classify (Percent.decode t) := by
  set sep : Char → Bool := fun c => c == '/' || (true && c == '\\') with hsep
  obtain ⟨front, hsplit⟩ : ∃ front, Text.splitBy sep t = front ++ [Text.lastPiece sep t] := by
    have hlast : (Text.splitBy sep t).getLast? = some (Text.lastPiece sep t) := by
      rw [Text.lastPiece, List.getLast?_eq_some_getLast (Text.splitBy_ne_nil sep t)]
      rfl
    obtain ⟨front, hfront⟩ := List.getLast?_eq_some_iff.mp hlast
    exact ⟨front, hfront⟩
  have htext : classify (Percent.decode t) = classify (Percent.decode (Text.lastPiece sep t)) := by
    rcases Text.eq_lastPiece_or sep t with ht | ⟨s, c, hc, ht⟩
    · rw [← ht]
    · have hslash : Specifier.isSlash c = true := by simpa [hsep, Specifier.isSlash] using hc
      rw [← classify_decode_append_cons hslash s (Text.lastPiece sep t), ← ht]
  -- Of the segments only the last is looked at, and of the text what follows its last slash.
  set piece := Percent.encode Percent.pathSet (Text.lastPiece sep t) with hpiece
  have hdecode : Percent.decode piece = Percent.decode (Text.lastPiece sep t) :=
    Percent.decode_encode_of_keeps keeps_pathSet _
  obtain ⟨last, hlast, hcases⟩ := getLast?_normalSegments stack
    (front.map (Percent.encode Percent.pathSet)) piece
  have hsegments : pathAfter "file" stack t = dropEmptyFront (normalSegments true stack
      (front.map (Percent.encode Percent.pathSet) ++ [piece])) := by
    show dropEmptyFront (normalSegments true stack
      ((Text.splitBy sep t).map (Percent.encode Percent.pathSet))) = _
    rw [hsplit, List.map_append, List.map_singleton]
  have hne : normalSegments true stack
      (front.map (Percent.encode Percent.pathSet) ++ [piece]) ≠ [] := by
    intro hnil
    rw [hnil] at hlast
    cases hlast
  rw [hsegments, classify_segmentPath ((getLast?_dropEmptyFront hne).trans hlast), htext, ← hdecode]
  rcases hcases with rfl | ⟨hdots, rfl⟩ | ⟨hdrive, rfl⟩
  · rfl
  · rw [classify_decode_of_dots hdots]
    decide
  · obtain ⟨a, b, hab, ha, hb⟩ := exists_of_isDrive hdrive
    rw [hab, classify_decode_of_drive ha hb]
    exact classify_decode_of_drive ha (Or.inl rfl)

end ModuleHooks.Url
