import ModuleHooks.Proofs.Path.Ascent
import ModuleHooks.Proofs.Url.RoundTrip
import ModuleHooks.Proofs.Url.Trail
/-!
# Absolute paths as references

An absolute path can be given to the reader of references as it stands. Whether it then names the
same file depends on what else the reader sees in it: marks that end the path, triples, backslashes,
a host behind two slashes, drive letters, and empty segments that `..` takes away. In a path without
these (`IsLiteralPath`) it sees nothing else, and the reference leads to the path, up to lexical
normalisation (`exists_join_of_isLiteralPath`). If no segment leads up, it even writes the path as
it is, apart from `.` and from slashes at the front (`segmentPath_of_ne_above`).
-/

namespace ModuleHooks.Url

open ModuleHooks.Path

variable {p q s : Text} {base : Url} {stack segments : List Text}

/-! ## Literal paths -/

/-- **An absolute path that means itself as a reference.** -/
structure IsLiteralPath (p : Text) : Prop where
  /-- It is a path. -/
  isAbsolute : Path.isAbsolute p = true
  /-- No blank or control character stands at its end. -/
  lt_of_getLast? : ∀ c ∈ p.getLast?, 32 < c.toNat
  /-- It holds no character that is left out or ends the path, and no other kind of slash. -/
  notMem : ∀ c ∈ p, c ∉ "\t\n\r#?\\".toList
  /-- No percent sign begins a triple. -/
  untripled : Percent.Untripled p
  /-- Two slashes at the front are followed by a third, so that no host stands there. -/
  hostless : ∀ r, p = '/' :: '/' :: r → Path.isAbsolute r = true
  /-- Empty segments and drive letters are not in the way. -/
  isFollowed : IsFollowed [] (Text.splitOn '/' p)

-- The two conditions on characters are tested along the text, and not for all characters there are.
instance : DecidablePred IsLiteralPath := fun p =>
  decidable_of_iff
    (Path.isAbsolute p = true ∧ p.getLast?.all (fun c => decide (32 < c.toNat)) = true
      ∧ p.all (fun c => decide (c ∉ "\t\n\r#?\\".toList)) = true ∧ Percent.Untripled p
      ∧ (['/', '/'] <+: p → Path.isAbsolute (p.drop 2) = true)
      ∧ IsFollowed [] (Text.splitOn '/' p)) <| by
    rw [Option.all_eq_true, List.all_eq_true]
    simp only [decide_eq_true_iff]
    constructor
    · rintro ⟨habsolute, hlast, hmem, huntripled, hhost, hfollowed⟩
      refine ⟨habsolute, fun c hc => hlast c hc, hmem, huntripled, ?_, hfollowed⟩
      rintro r rfl
      exact hhost ⟨r, rfl⟩
    · intro h
      refine ⟨h.isAbsolute, fun c hc => h.lt_of_getLast? c hc, h.notMem, h.untripled, ?_,
        h.isFollowed⟩
      rintro ⟨r, rfl⟩
      exact h.hostless r rfl

/-- A text that begins with a slash has nothing to be cleaned of if its end and its middle have
not. -/
theorem clean_of_cons {r : Text} (hlast : ∀ c ∈ ('/' :: r).getLast?, 32 < c.toNat)
    (hmem : ∀ c ∈ '/' :: r, c ≠ '\t' ∧ c ≠ '\n' ∧ c ≠ '\r') : clean ('/' :: r) = '/' :: r := by
  have htrimmed : Text.IsTrimmed (fun c : Char => decide (c.toNat ≤ 32)) ('/' :: r) := by
    refine ⟨fun c hc => ?_, fun c hc => decide_eq_false (Nat.not_le.mpr (hlast c hc))⟩
    cases hc
    decide
  rw [clean, Text.trim_of_isTrimmed htrimmed, List.filter_eq_self]
  intro c hc
  obtain ⟨htab, hline, hreturn⟩ := hmem c hc
  simp [htab, hline, hreturn]

namespace IsLiteralPath

theorem ne_of_mem (h : IsLiteralPath p) {c : Char} (hc : c ∈ p) :
    c ≠ '\t' ∧ c ≠ '\n' ∧ c ≠ '\r' ∧ c ≠ '#' ∧ c ≠ '?' ∧ c ≠ '\\' := by
  have hnot := h.notMem c hc
  simpa using hnot

theorem clean_eq (h : IsLiteralPath p) : clean p = p := by
  obtain ⟨r, rfl⟩ := exists_of_isAbsolute h.isAbsolute
  exact clean_of_cons h.lt_of_getLast? fun c hc =>
    ⟨(h.ne_of_mem hc).1, (h.ne_of_mem hc).2.1, (h.ne_of_mem hc).2.2.1⟩

/-- Nothing is cut off any part of it. -/
theorem cut_eq (h : IsLiteralPath p) (hq : q <:+ p) : cut q = (q, none, none) :=
  cut_of_notMem (fun hmem => (h.ne_of_mem (hq.subset hmem)).2.2.2.1 rfl)
    fun hmem => (h.ne_of_mem (hq.subset hmem)).2.2.2.2.1 rfl

/-- What it is written in are its segments, encoded. -/
theorem writtenSegments_eq (h : IsLiteralPath p) (hq : q <:+ p) :
    writtenSegments true q = (Text.splitOn '/' q).map encoded := by
  have hsplit : Text.splitBy (fun c => c == '/' || (true && c == '\\')) q = Text.splitOn '/' q := by
    refine Text.splitBy_congr fun c hc => ?_
    have hne : c ≠ '\\' := (h.ne_of_mem (hq.subset hc)).2.2.2.2.2
    simp [hne]
  rw [writtenSegments, hsplit]

end IsLiteralPath

/-! ## Reading the reference -/

/-- A reference that begins with a slash is read as one to a file. -/
theorem read_of_cons (hbase : IsFileUrl base) {r : Text} (hclean : clean ('/' :: r) = '/' :: r) :
    base.join ('/' :: r) = readFile (some base) ('/' :: r) := by
  obtain ⟨hscheme, first, rest, hpath⟩ := hbase
  have hfile : isFileScheme base.scheme = true := beq_iff_eq.mpr hscheme
  have hnone : splitScheme? ('/' :: r) = none := by
    rw [← hclean]
    exact splitScheme?_clean_cons r (Or.inr rfl)
  rw [join, read, hclean]
  simp only [hnone, readWithoutScheme, hpath, hfile, if_true]
  rfl

/-- What is read of a reference with one slash that is all path. -/
theorem readRootedFile_of_cut (hhost : base.host? = none)
    (hdrive : ∀ s ∈ base.segmentList.head?, isNormalDrive s = false) {r : Text}
    (hcut : cut r = (r, none, none)) :
    readRootedFile (some base) r = fileUrl (.domain []) (pathAfter "file" [] r) := by
  have hbase : baseHost (some base) = .domain [] := by
    unfold host? at hhost
    show (base.authority.map (·.host)).getD (.domain []) = .domain []
    cases hauthority : base.authority with
    | none => rfl
    | some a =>
      rw [hauthority] at hhost
      dsimp only at hhost
      split_ifs at hhost with ha
      exact ha
  unfold readRootedFile
  rw [hcut]
  by_cases hstart : startsWithDrive r = true
  · rw [hstart]
    rfl
  · rw [Bool.eq_false_of_not_eq_true hstart, hbase, Option.map_some]
    cases hsegments : base.segmentList with
    | nil => rfl
    | cons s l =>
      have hs : isNormalDrive s = false := hdrive s (by rw [hsegments]; rfl)
      dsimp only
      rw [hs]
      rfl

/-- **A literal path is all path**: the reference keeps nothing of the base but that it is a
file. -/
theorem join_of_isLiteralPath (hbase : IsFileUrl base) (hhost : base.host? = none)
    (hdrive : ∀ s ∈ base.segmentList.head?, isNormalDrive s = false) (h : IsLiteralPath p) :
    ∃ q, (p = '/' :: q ∨ p = '/' :: '/' :: q)
      ∧ base.join p = .ok (fileUrl (.domain []) (pathAfter "file" [] q)) := by
  obtain ⟨r, rfl⟩ := exists_of_isAbsolute h.isAbsolute
  rw [read_of_cons hbase h.clean_eq]
  have hrooted := readRootedFile_of_cut hhost hdrive (h.cut_eq (List.suffix_cons '/' r))
  cases r with
  | nil => exact ⟨[], Or.inl rfl, congrArg Except.ok hrooted⟩
  | cons d s =>
    by_cases hd : d = '/'
    · subst hd
      obtain ⟨q, rfl⟩ := exists_of_isAbsolute (h.hostless s rfl)
      refine ⟨'/' :: q, Or.inr rfl, ?_⟩
      show readFileHost ('/' :: q) = _
      rw [readFileHost_of_slash rfl, h.cut_eq (q := '/' :: q) ⟨['/', '/'], rfl⟩]
      rfl
    · have hback : d ≠ '\\' :=
        (h.ne_of_mem (List.mem_cons_of_mem '/' List.mem_cons_self)).2.2.2.2.2
      refine ⟨d :: s, Or.inl rfl, ?_⟩
      rw [← hrooted, readFile]
      simp [hd, hback]

/-! ## The walk along the segments -/

/-- The normal form is what the walk leaves, and an empty segment after a last one that stands for
a directory. -/
theorem normalSegments_eq_or (file : Bool) (stack segments : List Text) :
    normalSegments file stack segments = (segments.foldl (pushSegment file) stack).reverse
      ∨ normalSegments file stack segments
        = (segments.foldl (pushSegment file) stack).reverse ++ [[]] := by
  fun_induction normalSegments file stack segments with
  | case1 stack => exact Or.inl rfl
  | case2 stack s hdots => exact Or.inr List.reverse_cons
  | case3 stack s hdots => exact Or.inl rfl
  | case4 stack s rest hrest ih => exact ih

/-- Segments that end in one that stands for itself leave nothing but the walk. -/
theorem normalSegments_concat_of_not {last : Text} (hlast : (isAbove last || isHere last) = false)
    (file : Bool) (stack front : List Text) : normalSegments file stack (front ++ [last])
      = ((front ++ [last]).foldl (pushSegment file) stack).reverse := by
  induction front generalizing stack with
  | nil => rw [List.nil_append, normalSegments, hlast, if_neg Bool.false_ne_true]; rfl
  | cons s front ih =>
    rw [List.cons_append, normalSegments_cons _ _ _
      (List.append_ne_nil_of_right_ne_nil front (List.cons_ne_nil last [])), ih, List.foldl_cons]

theorem map_decode_encoded (h : ∀ s ∈ segments, Percent.Untripled s) :
    (segments.map encoded).map Percent.decode = segments := by
  rw [List.map_map]
  exact (List.map_congr_left fun s hs => decode_encoded (h s hs)).trans (List.map_id segments)

/-- Dropping empty segments drops no name. -/
theorem filter_dropEmptyFront (l : List Text) :
    ((dropEmptyFront l).map Percent.decode).filter (· != [])
      = (l.map Percent.decode).filter (· != []) := by
  have hfront : ((l.takeWhile (· == [])).map Percent.decode).filter (· != []) = [] := by
    rw [List.filter_eq_nil_iff]
    intro s hs
    obtain ⟨u, hu, rfl⟩ := List.mem_map.mp hs
    have hnil : u = [] := by simpa using List.mem_takeWhile_imp hu
    rw [hnil]
    decide
  have hsplit : (l.map Percent.decode).filter (· != [])
      = ((l.dropWhile (· == [])).map Percent.decode).filter (· != []) := by
    rw [← List.takeWhile_append_dropWhile (p := (· == ([] : Text))) (l := l), List.map_append,
      List.filter_append, hfront, List.nil_append, List.takeWhile_append_dropWhile]
  rw [hsplit]
  unfold dropEmptyFront
  split
  · next hnil =>
    rw [hnil]
    decide
  · rfl

theorem pathAfter_ne_nil (stack : List Text) (q : Text) : pathAfter "file" stack q ≠ [] := by
  obtain ⟨s, l, hsegments⟩ := exists_pathAfter stack q
  rw [hsegments]
  exact List.cons_ne_nil s l

/-- The path that segments spell, with all the slashes that are written. -/
theorem segmentPath_eq {l : List Text} (hne : l ≠ []) :
    segmentPath l = closeDrive (rooted (l.map Percent.decode)) := by
  rw [segmentPath, rooted_eq_flatMap (mt List.map_eq_nil_iff.mp hne), List.flatMap_map]

/-- The steps of the path that segments spell are those that are not empty. -/
theorem steps_segmentPath {l : List Text} (hne : l ≠ []) (h : ∀ u ∈ l, IsEncoded u) :
    steps (segmentPath l) = (l.map Percent.decode).filter (· != []) := by
  have hpieces : ∀ s ∈ l.map Percent.decode, '/' ∉ s ∧ s ≠ ['.'] := fun s hs => by
    obtain ⟨u, hu, rfl⟩ := List.mem_map.mp hs
    exact ⟨(h u hu).notMem, (h u hu).ne_dots.1⟩
  rw [segmentPath_eq hne, steps_closeDrive, rooted, steps_cons,
    steps_join_pieces fun s hs => (hpieces s hs).1]
  refine List.filter_congr fun s hs => ?_
  rw [isIdle, beq_eq_false_iff_ne.mpr (hpieces s hs).2, Bool.or_false]
  rfl

/-- Where no segment leads up, the names are the steps. -/
theorem normalNames_segmentPath {l : List Text} (hne : l ≠ []) (h : ∀ u ∈ l, IsEncoded u) :
    normalNames (segmentPath l) = steps (segmentPath l) := by
  have habsolute : Path.isAbsolute (segmentPath l) = true :=
    isAbsolute_of_toFilePath? (toFilePath?_fileUrl hne)
  rw [normalNames_eq habsolute, foldl_climb_of_ne_above, List.append_nil, List.reverse_reverse]
  intro s hs
  rw [steps_segmentPath hne h] at hs
  obtain ⟨u, hu, rfl⟩ := List.mem_map.mp (List.mem_of_mem_filter hs)
  exact (h u hu).ne_dots.2

/-! ## Where a literal path leads -/

namespace IsLiteralPath

variable (h : IsLiteralPath p) (hq : p = '/' :: q ∨ p = '/' :: '/' :: q)

include hq in
theorem isSuffix : q <:+ p := by
  rcases hq with rfl | rfl
  · exact List.suffix_cons '/' q
  · exact ⟨['/', '/'], rfl⟩

include hq in
theorem steps_eq : steps p = steps q := by
  rcases hq with rfl | rfl
  · exact steps_cons q
  · rw [steps_cons, steps_cons]

include h in
theorem untripled_of_mem (hq : q <:+ p) (hs : s ∈ Text.splitOn '/' q) : Percent.Untripled s :=
  (h.untripled.of_isInfix hq.isInfix).of_isInfix (Text.isInfix_of_mem_splitOn hs)

include h hq

/-- Before the segments there are one or two empty ones on the trail. -/
theorem exists_tracks : ∃ trail, Tracks [] trail ∧ trail.filter (· != []) = []
    ∧ IsFollowed trail (Text.splitOn '/' q) := by
  have hfollowed := h.isFollowed
  rcases hq with rfl | rfl
  · have hsplit : Text.splitOn '/' ('/' :: q) = [] :: Text.splitOn '/' q :=
      Text.splitOn_append_cons '/' [] q
    rw [hsplit] at hfollowed
    exact ⟨[[]], ⟨⟨1, rfl⟩, fun u hu => absurd hu List.not_mem_nil⟩, rfl,
      (isFollowed_cons.mp hfollowed).2⟩
  · have hsplit : Text.splitOn '/' ('/' :: '/' :: q) = [] :: [] :: Text.splitOn '/' q :=
      (Text.splitOn_append_cons '/' [] ('/' :: q)).trans
        (congrArg _ (Text.splitOn_append_cons '/' [] q))
    rw [hsplit] at hfollowed
    exact ⟨[[], []], ⟨⟨2, rfl⟩, fun u hu => absurd hu List.not_mem_nil⟩, rfl,
      (isFollowed_cons.mp (isFollowed_cons.mp hfollowed).2).2⟩

/-- **The path of the reference** has the names of the literal path. -/
theorem pathAfter_names : (∀ u ∈ pathAfter "file" [] q, IsEncoded u)
    ∧ ((pathAfter "file" [] q).map Percent.decode).filter (· != []) = normalNames p := by
  obtain ⟨trail, htracks, hnone, hfollowed⟩ := h.exists_tracks hq
  have hsuffix := isSuffix hq
  obtain ⟨hstack, hnames⟩ := tracks_foldl htracks (fun s hs => h.untripled_of_mem hsuffix hs)
    (fun s hs => Text.notMem_of_mem_splitOn hs) hfollowed
  have hpath : pathAfter "file" [] q
      = dropEmptyFront (normalSegments true [] ((Text.splitOn '/' q).map encoded)) := by
    rw [← h.writtenSegments_eq hsuffix]
    rfl
  have hwalk := hstack.filter_eq
  rw [hnames, hnone] at hwalk
  have hsteps : normalNames p = ((steps q).foldl climb []).reverse := by
    rw [normalNames_eq h.isAbsolute, steps_eq hq]
  rw [hpath, filter_dropEmptyFront, hsteps, steps, ← hwalk]
  have hreverse : ∀ u ∈ (((Text.splitOn '/' q).map encoded).foldl (pushSegment true) []).reverse,
      IsEncoded u := fun u hu => hstack.isEncoded u (List.mem_reverse.mp hu)
  rcases normalSegments_eq_or true [] ((Text.splitOn '/' q).map encoded) with heq | heq <;> rw [heq]
  · refine ⟨forall_mem_dropEmptyFront isEncoded_nil hreverse, ?_⟩
    rw [List.map_reverse, List.filter_reverse]
  · refine ⟨forall_mem_dropEmptyFront isEncoded_nil (List.forall_mem_append.mpr
      ⟨hreverse, List.forall_mem_singleton.mpr isEncoded_nil⟩), ?_⟩
    rw [List.map_append, List.filter_append, List.map_reverse, List.filter_reverse]
    exact List.append_nil _

/-- The path that is spelled has the names for its steps. -/
theorem steps_segmentPath_pathAfter : steps (segmentPath (pathAfter "file" [] q)) = normalNames p := by
  obtain ⟨hencoded, hnames⟩ := h.pathAfter_names hq
  rw [steps_segmentPath (pathAfter_ne_nil [] q) hencoded, hnames]

end IsLiteralPath

/-- **A literal path is a reference to itself**, up to lexical normalisation. -/
theorem exists_join_of_isLiteralPath (hbase : IsFileUrl base) (hhost : base.host? = none)
    (hdrive : ∀ s ∈ base.segmentList.head?, isNormalDrive s = false) (h : IsLiteralPath p) :
    ∃ url p', base.join p = .ok url ∧ url.toFilePath? = some p'
      ∧ normalNames p' = normalNames p := by
  obtain ⟨q, hq, hjoin⟩ := join_of_isLiteralPath hbase hhost hdrive h
  have hne := pathAfter_ne_nil [] q
  refine ⟨_, _, hjoin, toFilePath?_fileUrl hne, ?_⟩
  rw [normalNames_segmentPath hne (h.pathAfter_names hq).1, h.steps_segmentPath_pathAfter hq]

/-! ## Literal paths that lead down -/

/-- Where no segment leads up, the stack is what has been pushed. -/
theorem foldl_pushSegment_of_ne_above {trail : List Text} (h : Tracks stack trail)
    (hsegments : ∀ t ∈ segments, Percent.Untripled t ∧ '/' ∉ t ∧ t ≠ ['.', '.'])
    (hfollowed : IsFollowed trail segments) :
    (segments.map encoded).foldl (pushSegment true) stack
      = ((segments.filter (· != ['.'])).map encoded).reverse ++ stack := by
  induction segments generalizing stack trail with
  | nil => rfl
  | cons t segments ih =>
    obtain ⟨⟨ht, hslash, habove⟩, hsegments⟩ := List.forall_mem_cons.mp hsegments
    obtain ⟨hf, hfollowed⟩ := isFollowed_cons.mp hfollowed
    rw [List.map_cons, List.foldl_cons, ih (h.pushSegment ht hslash hf) hsegments hfollowed]
    by_cases hhere : t = ['.']
    · subst hhere
      rfl
    · rw [h.pushSegment_eq ht hhere habove hf, List.filter_cons_of_pos (by simpa using hhere),
        List.map_cons, List.reverse_cons, List.append_assoc, List.singleton_append]

/-- **The walk down to a name** passes every segment but `.`. -/
theorem normalSegments_of_ne_above {trail front : List Text} {last : Text} (h : Tracks [] trail)
    (hsegments : ∀ t ∈ front ++ [last], Percent.Untripled t ∧ '/' ∉ t ∧ t ≠ ['.', '.'])
    (hfollowed : IsFollowed trail (front ++ [last])) (hhere : last ≠ ['.']) :
    normalSegments true [] ((front ++ [last]).map encoded)
      = (front.filter (· != ['.'])).map encoded ++ [encoded last] := by
  obtain ⟨huntripled, -, habove⟩ := hsegments last (List.mem_append_right front List.mem_cons_self)
  have hdots : (isAbove (encoded last) || isHere (encoded last)) = false := by
    rw [Bool.or_eq_false_iff, ← Bool.not_eq_true, ← Bool.not_eq_true, isAbove_encoded huntripled,
      isHere_encoded huntripled]
    exact ⟨habove, hhere⟩
  have hfold := foldl_pushSegment_of_ne_above h hsegments hfollowed
  rw [List.map_append, List.map_singleton] at hfold ⊢
  rw [normalSegments_concat_of_not hdots, hfold, List.append_nil, List.reverse_reverse,
    List.filter_append, List.filter_cons_of_pos (by simpa using hhere), List.map_append]
  rfl

/-- What is left at the front of segments is some of them, up to the last, if that is a name. -/
theorem exists_dropEmptyFront_eq {last : Text} (hlast : last ≠ []) (front : List Text) :
    ∃ dirs, dropEmptyFront (front ++ [last]) = dirs ++ [last] ∧ dirs.Sublist front := by
  induction front with
  | nil => exact ⟨[], by simp [dropEmptyFront, hlast], .refl []⟩
  | cons s front ih =>
    by_cases hs : s = []
    · obtain ⟨dirs, hdirs, hsub⟩ := ih
      refine ⟨dirs, ?_, hsub.cons s⟩
      rw [← hdirs, hs]
      rfl
    · exact ⟨s :: front, by simp [dropEmptyFront, hs], .refl _⟩

/-- **A literal path that leads down to a name** is written as it is by the URL, apart from `.` and
from slashes at the front. -/
theorem segmentPath_of_ne_above (h : IsLiteralPath p) (hq : p = '/' :: q ∨ p = '/' :: '/' :: q)
    (habove : ['.', '.'] ∉ steps p) {front : List Text} {last : Text}
    (hlast : Text.splitOn '/' q = front ++ [last]) (hidle : isIdle last = false) :
    ∃ dirs, dirs.Sublist front
      ∧ segmentPath (pathAfter "file" [] q) = closeDrive (rooted (dirs ++ [last])) := by
  obtain ⟨trail, htracks, -, hfollowed⟩ := h.exists_tracks hq
  have hsuffix := IsLiteralPath.isSuffix hq
  have hsegments : ∀ t ∈ Text.splitOn '/' q,
      Percent.Untripled t ∧ '/' ∉ t ∧ t ≠ ['.', '.'] := fun t ht => by
    refine ⟨h.untripled_of_mem hsuffix ht, Text.notMem_of_mem_splitOn ht, ?_⟩
    rintro rfl
    refine habove ?_
    rw [IsLiteralPath.steps_eq hq]
    exact List.mem_filter.mpr ⟨ht, rfl⟩
  obtain ⟨hnil, hhere⟩ := isIdle_eq_false_iff.mp hidle
  have hlastMem : last ∈ Text.splitOn '/' q := hlast ▸ List.mem_append_right front List.mem_cons_self
  obtain ⟨huntripled, -, -⟩ := hsegments last hlastMem
  have hencodedNil : encoded last ≠ [] := fun hencoded =>
    hnil (by rw [← decode_encoded huntripled, hencoded]; rfl)
  have hwalk := normalSegments_of_ne_above htracks (hlast ▸ hsegments) (hlast ▸ hfollowed) hhere
  obtain ⟨dirs, hdirs, hsub⟩ := exists_dropEmptyFront_eq hencodedNil
    ((front.filter (· != ['.'])).map encoded)
  have hpath : pathAfter "file" [] q = dirs ++ [encoded last] := by
    show dropEmptyFront (normalSegments true [] (writtenSegments true q)) = _
    rw [h.writtenSegments_eq hsuffix, hlast, hwalk, hdirs]
  have hfront : ∀ s ∈ front.filter (· != ['.']), Percent.Untripled s := fun s hs =>
    (hsegments s (hlast ▸ List.mem_append_left _ (List.mem_of_mem_filter hs))).1
  refine ⟨dirs.map Percent.decode, ?_, ?_⟩
  · have hdecoded := hsub.map Percent.decode
    rw [map_decode_encoded hfront] at hdecoded
    exact hdecoded.trans List.filter_sublist
  · rw [hpath, segmentPath_eq (List.append_ne_nil_of_right_ne_nil _ (List.cons_ne_nil _ _)),
      List.map_append, List.map_singleton, decode_encoded huntripled]

end ModuleHooks.Url
