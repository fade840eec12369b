import ModuleHooks.Proofs.Path.PlainName
import ModuleHooks.Proofs.Url.FilePath
import ModuleHooks.Proofs.Url.Reference
/-!
# Relative references between plain names

A relative reference of plain segments, read against the URL of a file with a
plain path, leads to the file that the walk along the segments reaches
(`join_of_isPlainSegment`). The walk begins at the segments of the URL, of which
some may be `..` if the path was written with them. Everything that reading a reference does besides
walking has to be shown to do nothing here: nothing is trimmed
(`clean_eq_self`), nothing is cut off (`cut_of_notMem`), no segment is encoded
or taken for a drive letter or for an encoded dot (`normalSegments_eq_reach`).

A reference of plain segments leads to a directory, and not to a file, in two ways. It may end
in a slash, or its last segment may be one of the two names of directories; in a URL both come
to the same, an empty segment at the end (`join_directory`, `join_dots`). The path of such a URL
has a slash at its end, whatever the walk along the segments arrives at.
-/

namespace ModuleHooks.Url

open ModuleHooks.Path

/-! ## Steps of the reader -/

/-- A text without blanks and controls is read as it is. -/
theorem clean_eq_self {t : Text} (h : ∀ c ∈ t, 32 < c.toNat) : clean t = t := by
  have hblank : ∀ c ∈ t, decide (c.toNat ≤ 32) = false := fun c hc =>
    decide_eq_false (Nat.not_le.mpr (h c hc))
  have hstart : ∀ s : Text, (∀ c ∈ s, c ∈ t) →
      s.dropWhile (fun c => decide (c.toNat ≤ 32)) = s := by
    intro s hs
    cases s with
    | nil => rfl
    | cons c s =>
      refine List.dropWhile_cons_of_neg ?_
      rw [hblank c (hs c List.mem_cons_self)]
      exact Bool.false_ne_true
  rw [clean, Text.trim, Text.trimStart, hstart t fun c hc => hc, Text.trimEnd,
    hstart t.reverse fun c hc => List.mem_reverse.mp hc, List.reverse_reverse, List.filter_eq_self]
  intro c hc
  have hne : ∀ d : Char, d.toNat ≤ 32 → c ≠ d := fun d hd heq =>
    absurd (h c hc) (by rw [heq]; exact Nat.not_lt.mpr hd)
  simp [hne '\t' (by decide), hne '\n' (by decide), hne '\r' (by decide)]

/-- A text without marks is all path. -/
theorem cut_of_notMem {t : Text} (hmark : '#' ∉ t) (hquestion : '?' ∉ t) :
    cut t = (t, none, none) := by
  have hfirst : Text.splitFirst? "#" t = none := Text.splitFirst?_of_notMem hmark
  have hsecond : Text.splitFirst? "?" t = none := Text.splitFirst?_of_notMem hquestion
  rw [cut, hfirst]
  simp only [hsecond]

/-- A segment that is not the last one is pushed. -/
theorem normalSegments_cons (file : Bool) (stack : List Text) (s : Text) {rest : List Text}
    (h : rest ≠ []) :
    normalSegments file stack (s :: rest)
      = normalSegments file (pushSegment file stack s) rest := by
  cases rest with
  | nil => exact absurd rfl h
  | cons t rest => rw [normalSegments]; exact List.cons_ne_nil t rest

/-! ## Plain segments -/

/-- The characters that no segment of a file holds: those that are encoded, and both slashes. -/
def segmentSet : Percent.EncodeSet := Percent.adding Percent.pathSet "/\\"

/-- No part of a file path encodes a plain character. -/
theorem segmentSet_of_isPlain {c : Char} (h : isPlain c = true) : segmentSet c = false := by
  have hset : (!segmentSet c) = true := forall_isPlain (p := fun c => !segmentSet c)
    (by decide) h
  exact (Bool.not_eq_true' _).mp hset

theorem segmentSet_of_isPlainSegment {s : Text} (h : IsPlainSegment s) :
    ∀ c ∈ s, segmentSet c = false :=
  fun c hc => segmentSet_of_isPlain (h.plain c hc)

theorem fileNameSet_of_isPlain {c : Char} (h : isPlain c = true) :
    Percent.fileNameSet c = false := by
  have hset : (!Percent.fileNameSet c) = true :=
    forall_isPlain (p := fun c => !Percent.fileNameSet c) (by decide) h
  exact (Bool.not_eq_true' _).mp hset

/-- There is no capital form of a dot. -/
theorem eq_of_lowerAscii_eq_dots {s d : Text} (hdots : ∀ c ∈ d, c = '.')
    (heq : Text.lowerAscii s = d) : s = d := by
  rw [← heq, Text.lowerAscii]
  refine ((List.map_congr_left fun c hc => ?_).trans (List.map_id s)).symm
  have hmem : c.toLower ∈ Text.lowerAscii s := List.mem_map_of_mem hc
  rw [heq] at hmem
  have hdot : c.toLower = '.' := hdots _ hmem
  rw [hdot, (Text.toLower_eq_iff (by decide)).mp hdot]
  rfl

/-- A plain text has no encoded dot. -/
theorem lowerAscii_ne_of_isPlain {s : Text} (h : ∀ c ∈ s, isPlain c = true) {encoded : Text}
    (hencoded : '%' ∈ encoded) : Text.lowerAscii s ≠ encoded := by
  intro heq
  rw [← heq, Text.lowerAscii, List.mem_map] at hencoded
  obtain ⟨c, hc, hlower⟩ := hencoded
  have hne : (c.toLower != '%') = true :=
    forall_isPlain (p := fun c => c.toLower != '%') (by decide) (h c hc)
  exact absurd hlower (by simpa using hne)

theorem isHere_of_isPlainName {s : Text} (h : IsPlainName s) : isHere s = false := by
  refine Bool.eq_false_iff.mpr (fun hs => ?_)
  rw [isHere, List.contains_iff_mem] at hs
  rcases List.mem_cons.mp hs with hs | hs
  · exact h.ne_here (eq_of_lowerAscii_eq_dots (d := ['.']) (by simp) hs)
  · exact lowerAscii_ne_of_isPlain h.plain (by decide) (List.mem_singleton.mp hs)

theorem isAbove_of_isPlainName {s : Text} (h : IsPlainName s) : isAbove s = false := by
  refine Bool.eq_false_iff.mpr (fun hs => ?_)
  rw [isAbove, List.contains_iff_mem] at hs
  rcases List.mem_cons.mp hs with hs | hs
  · exact h.ne_above (eq_of_lowerAscii_eq_dots (d := ['.', '.']) (by simp) hs)
  · refine lowerAscii_ne_of_isPlain h.plain ?_ rfl
    simp only [List.mem_cons, List.not_mem_nil, or_false] at hs
    rcases hs with hs | hs | hs <;> rw [hs] <;> decide

/-- A plain text is no drive letter. -/
theorem isDrive_of_isPlain {s : Text} (h : ∀ c ∈ s, isPlain c = true) : isDrive s = false := by
  unfold isDrive
  split
  · next a b =>
    have hb : isPlain b = true := h b (List.mem_cons_of_mem a List.mem_cons_self)
    have hcolon : b ≠ ':' := fun heq => absurd hb (by rw [heq]; decide)
    have hbar : b ≠ '|' := fun heq => absurd hb (by rw [heq]; decide)
    simp [hcolon, hbar]
  · rfl

/-- Pushing a plain segment is climbing, where the segment leads anywhere. -/
theorem pushSegment_of_isPlainSegment {stack : List Text} (hstack : ∀ s ∈ stack, IsPlainSegment s)
    {s : Text} (h : IsPlainSegment s) :
    pushSegment true stack s = if isIdle s then stack else climb stack s := by
  rcases h with (rfl | rfl) | h
  · rfl
  · show popSegment stack = stack.drop 1
    cases stack with
    | nil => rfl
    | cons t stack =>
      rw [popSegment, isDrive_of_isPlain (hstack t List.mem_cons_self).plain]
      rfl
  · rw [pushSegment, isAbove_of_isPlainName h, isHere_of_isPlainName h,
      isDrive_of_isPlain h.plain, Bool.and_false, h.isStep.1, climb_of_isPlainName h]
    rfl

/-- **Plain segments are walked along**: each of them is pushed, and what comes last is pushed
where the walk arrives. -/
theorem normalSegments_concat {dirs segments : List Text} (hdirs : ∀ s ∈ dirs, IsPlainSegment s)
    (h : ∀ s ∈ segments, IsPlainSegment s) (last : Text) :
    normalSegments true dirs.reverse (segments ++ [last])
      = normalSegments true (reach dirs segments).reverse [last] := by
  -- The directories change with each segment and stay plain, which keeps drive letters out;
  -- that they are names is not needed, for a `..` among them is popped like a name.
  induction segments generalizing dirs with
  | nil => rw [reach, List.filter_nil, List.foldl_nil, List.reverse_reverse, List.nil_append]
  | cons s segments ih =>
    obtain ⟨hs, hsegments⟩ := List.forall_mem_cons.mp h
    have hreach : pushSegment true dirs.reverse s = (reach dirs [s]).reverse := by
      rw [pushSegment_of_isPlainSegment (fun t ht => hdirs t (List.mem_reverse.mp ht)) hs, reach,
        List.reverse_reverse, List.filter_singleton]
      cases isIdle s <;> rfl
    have hdirs' : ∀ t ∈ reach dirs [s], IsPlainSegment t :=
      isPlainSegment_of_mem_reach hdirs (List.forall_mem_singleton.mpr hs)
    rw [List.cons_append, normalSegments_cons _ _ _
      (List.append_ne_nil_of_right_ne_nil segments (List.cons_ne_nil last [])), hreach,
      ih hdirs' hsegments, ← reach_append, List.singleton_append]

/-- A plain name at the end stays. -/
theorem normalSegments_eq_reach {dirs segments : List Text} (hdirs : ∀ s ∈ dirs, IsPlainSegment s)
    (h : ∀ s ∈ segments, IsPlainSegment s) {last : Text} (hlast : IsPlainName last) :
    normalSegments true dirs.reverse (segments ++ [last]) = reach dirs (segments ++ [last]) := by
  have harrived : ∀ s ∈ (reach dirs segments).reverse, IsPlainSegment s := fun s hs =>
    isPlainSegment_of_mem_reach hdirs h s (List.mem_reverse.mp hs)
  rw [normalSegments_concat hdirs h, normalSegments, isAbove_of_isPlainName hlast,
    isHere_of_isPlainName hlast, pushSegment_of_isPlainSegment harrived (Or.inr hlast),
    hlast.isStep.1, reach_concat hlast]
  show (climb (reach dirs segments).reverse last).reverse = _
  rw [climb_of_isPlainName hlast, List.reverse_cons, List.reverse_reverse]

/-! ## Reading a plain reference -/

/-- A join of plain segments consists of plain characters and slashes. -/
theorem isPlain_or_slash_of_mem_join {segments : List Text}
    (h : ∀ s ∈ segments, IsPlainSegment s) {c : Char} (hc : c ∈ Text.join "/" segments) :
    isPlain c = true ∨ c = '/' := by
  rcases Text.eq_or_exists_of_mem_join hc with hslash | ⟨s, hs, hmem⟩
  · exact Or.inr hslash
  · exact Or.inl ((h s hs).plain c hmem)

/-- A join of plain segments begins with a plain character. -/
theorem exists_join_eq_cons {segments : List Text} (hne : segments ≠ [])
    (h : ∀ s ∈ segments, IsPlainSegment s) :
    ∃ c r, Text.join "/" segments = c :: r ∧ isPlain c = true := by
  obtain ⟨s, segments, rfl⟩ := List.exists_cons_of_ne_nil hne
  have hs : IsPlainSegment s := h s List.mem_cons_self
  obtain ⟨c, r, rfl⟩ := List.exists_cons_of_ne_nil hs.ne_nil
  have hc : isPlain c = true := hs.plain c List.mem_cons_self
  cases segments with
  | nil => exact ⟨c, r, Text.join_singleton _ _, hc⟩
  | cons t segments =>
    rw [Text.join_cons _ (List.cons_ne_nil t segments)]
    exact ⟨c, _, rfl, hc⟩

/-- A join of plain segments is a relative path. -/
theorem isAbsolute_join_of_isPlainSegment {segments : List Text} (hne : segments ≠ [])
    (h : ∀ s ∈ segments, IsPlainSegment s) : isAbsolute (Text.join "/" segments) = false := by
  obtain ⟨c, r, hjoin, hc⟩ := exists_join_eq_cons hne h
  refine Bool.eq_false_iff.mpr (fun habsolute => ?_)
  obtain ⟨r', hr'⟩ := exists_of_isAbsolute habsolute
  obtain ⟨rfl, -⟩ := List.cons_eq_cons.mp (hjoin.symm.trans hr')
  exact absurd hc (by decide)

/-- **The pieces that a join is written in** are the segments, if nothing needs to be encoded in
them and none of them holds a slash. -/
theorem writtenSegments_join {segments : List Text} (hne : segments ≠ [])
    (h : ∀ s ∈ segments, ∀ c ∈ s, segmentSet c = false) :
    writtenSegments true (Text.join "/" segments) = segments := by
  have hnotMem : ∀ c, segmentSet c = true → ∀ s ∈ segments, c ∉ s := fun c hset s hs hmem => by
    rw [h s hs c hmem] at hset
    cases hset
  have hsplit : Text.splitBy (fun c => c == '/' || (true && c == '\\')) (Text.join "/" segments)
      = Text.splitOn '/' (Text.join ['/'] segments) := by
    refine Text.splitBy_congr (fun c hc => ?_)
    have hne : c ≠ '\\' := by
      rintro rfl
      rcases Text.eq_or_exists_of_mem_join hc with heq | ⟨s, hs, hmem⟩
      · exact absurd heq (by decide)
      · exact hnotMem _ (by decide) s hs hmem
    simp [hne]
  rw [writtenSegments, hsplit, Text.splitOn_join hne (hnotMem '/' (by decide))]
  refine (List.map_congr_left fun s hs => ?_).trans (List.map_id segments)
  exact Percent.encode_eq_self fun c hc => (Bool.or_eq_false_iff.mp (h s hs c hc)).1

/-- Plain segments are not empty, so none is dropped from the front. -/
theorem dropEmptyFront_of_isPlainSegment {segments : List Text} (hne : segments ≠ [])
    (h : ∀ s ∈ segments, IsPlainSegment s) : dropEmptyFront segments = segments := by
  cases segments with
  | nil => exact absurd rfl hne
  | cons s segments =>
    have hkept : (s :: segments).dropWhile (· == []) = s :: segments :=
      List.dropWhile_cons_of_neg (by simpa using (h s List.mem_cons_self).ne_nil)
    rw [dropEmptyFront, hkept]

/-- The path after plain directories is where the walk arrives. -/
theorem pathAfter_of_isPlainSegment {dirs front : List Text} (hdirs : ∀ s ∈ dirs, IsPlainSegment s)
    (hfront : ∀ s ∈ front, IsPlainSegment s) {last : Text} (hlast : IsPlainName last) :
    pathAfter "file" dirs.reverse (Text.join "/" (front ++ [last]))
      = reach dirs (front ++ [last]) := by
  have hsegments : ∀ s ∈ front ++ [last], IsPlainSegment s := by
    refine List.forall_mem_append.mpr ⟨hfront, List.forall_mem_singleton.mpr (Or.inr hlast)⟩
  show dropEmptyFront (normalSegments true dirs.reverse
    (writtenSegments true (Text.join "/" (front ++ [last])))) = _
  rw [writtenSegments_join (List.append_ne_nil_of_right_ne_nil _ (List.cons_ne_nil _ _))
      (fun s hs => segmentSet_of_isPlainSegment (hsegments s hs)),
    normalSegments_eq_reach hdirs hfront hlast]
  refine dropEmptyFront_of_isPlainSegment ?_ (isPlainSegment_of_mem_reach hdirs hsegments)
  rw [reach_concat hlast]
  exact List.append_ne_nil_of_right_ne_nil _ (List.cons_ne_nil _ _)

/-- The stack of directories of a file with a plain path. -/
theorem directoryStack_of_isPlainSegment {names : List Text} (h : ∀ s ∈ names, IsPlainSegment s) :
    directoryStack (fileUrl (.domain []) (fileSegments names)) = names.dropLast.reverse := by
  have hsegments : ∀ s ∈ names, Percent.encode Percent.fileNameSet s = s := fun s hs =>
    Percent.encode_eq_self fun c hc => fileNameSet_of_isPlain ((h s hs).plain c hc)
  rcases List.eq_nil_or_concat' names with rfl | ⟨dirs, name, rfl⟩
  · decide
  have hlist : fileSegments (dirs ++ [name]) = dirs ++ [name] := by
    rw [fileSegments, List.map_congr_left hsegments, List.map_id']
    exact List.append_ne_nil_of_right_ne_nil _ (List.cons_ne_nil _ _)
  have hdrive : isNormalDrive name = false := by
    have hname := isDrive_of_isPlain (h name (List.mem_append_right _ List.mem_cons_self)).plain
    unfold isNormalDrive
    split
    · rw [isDrive, beq_self_eq_true, Bool.true_or, Bool.and_true] at hname
      exact hname
    · rfl
  have hstack : (fileUrl (.domain []) (dirs ++ [name])).segmentList.reverse
      = name :: dirs.reverse :=
    List.reverse_concat
  rw [hlist, List.dropLast_concat]
  unfold directoryStack
  simp only [hstack, hdrive, Bool.and_false, Bool.false_eq_true, if_false]

/-- The path of a URL of plain segments. -/
theorem toFilePath?_of_isPlainSegment {names : List Text} (hne : names ≠ [])
    (h : ∀ s ∈ names, IsPlainSegment s) :
    (fileUrl (.domain []) names).toFilePath? = some (rooted names) := by
  have hdecode : names.flatMap (fun s => '/' :: Percent.decode s) = rooted names := by
    rw [rooted_eq_flatMap hne]
    refine List.flatMap_congr (fun s hs => ?_)
    rw [Percent.decode_eq_self (notMem_of_isPlain (h s hs).plain (by decide))]
  rw [toFilePath?_fileUrl hne, segmentPath, hdecode]
  obtain ⟨dirs, last, rfl⟩ := (List.eq_nil_or_concat' names).resolve_left hne
  have hlast : IsPlainSegment last := h last (List.mem_append_right _ List.mem_cons_self)
  obtain ⟨stem, c, rfl⟩ := (List.eq_nil_or_concat' last).resolve_left hlast.ne_nil
  have hc : isPlain c = true := hlast.plain c (List.mem_append_right _ List.mem_cons_self)
  refine congrArg some (closeDrive_of_getLast (c := c) ?_ ?_ ?_)
  · rw [rooted_eq_flatMap hne, List.flatMap_append, List.flatMap_singleton, ← List.cons_append,
      ← List.append_assoc, List.getLast?_concat]
  · exact fun heq => absurd hc (by rw [heq]; decide)
  · exact fun heq => absurd hc (by rw [heq]; decide)

/-- A reference that begins with a plain character is relative to the directories of the base. -/
theorem readFile_of_isPlain (base : Url) {c : Char} {r : Text} (hc : isPlain c = true)
    (hcut : cut (c :: r) = (c :: r, none, none)) (hdrive : startsWithDrive (c :: r) = false) :
    readFile (some base) (c :: r)
      = .ok (withTail
          { base with path := .segments (pathAfter "file" (directoryStack base) (c :: r)) }
          none none) := by
  have hslash : (decide (c = '/') || decide (c = '\\')) = false := by
    rw [Bool.or_eq_false_iff, decide_eq_false_iff_not, decide_eq_false_iff_not]
    constructor <;> rintro rfl <;> exact absurd hc (by decide)
  unfold readFile
  simp only [hslash, hcut, hdrive]
  rfl

/-- A text without colons and bars does not start with a drive letter. -/
theorem startsWithDrive_of_notMem {t : Text} (hcolon : ':' ∉ t) (hbar : '|' ∉ t) :
    startsWithDrive t = false := by
  unfold startsWithDrive
  split
  · next a b r =>
    have hb : b ∈ a :: b :: r := List.mem_cons_of_mem a List.mem_cons_self
    have hne : b ≠ ':' ∧ b ≠ '|' := ⟨fun h => hcolon (h ▸ hb), fun h => hbar (h ▸ hb)⟩
    simp [hne.1, hne.2]
  · rfl

/-- **A reference of plain characters and slashes is all path**, behind the directories of the
base. -/
theorem join_eq_fileUrl {names : List Text} (hnames : ∀ s ∈ names, IsPlainSegment s) {c : Char}
    {r : Text} (hc : isPlain c = true) (h : ∀ d ∈ c :: r, isPlain d = true ∨ d = '/') :
    (fileUrl (.domain []) (fileSegments names)).join (c :: r)
      = .ok (fileUrl (.domain []) (pathAfter "file" names.dropLast.reverse (c :: r))) := by
  have hnotMem {d : Char} (hd : isPlain d = false) (hslash : d ≠ '/') : d ∉ c :: r := fun hmem => by
    rcases h d hmem with hplain | heq
    · rw [hd] at hplain
      cases hplain
    · exact hslash heq
  have hclean : clean (c :: r) = c :: r := by
    refine clean_eq_self (fun d hd => ?_)
    rcases h d hd with hplain | rfl
    · have hlt : decide (32 < d.toNat) = true :=
        forall_isPlain (p := fun c => decide (32 < c.toNat)) (by decide) hplain
      exact of_decide_eq_true hlt
    · decide
  have hcut : cut (c :: r) = (c :: r, none, none) :=
    cut_of_notMem (hnotMem (by decide) (by decide)) (hnotMem (by decide) (by decide))
  have hscheme : splitScheme? (c :: r) = none :=
    splitScheme?_of_colonsBehindSlash
      (colonsBehindSlash_of_not_mem (hnotMem (by decide) (by decide)))
  have hdrive : startsWithDrive (c :: r) = false :=
    startsWithDrive_of_notMem (hnotMem (by decide) (by decide)) (hnotMem (by decide) (by decide))
  have hread : readWithoutScheme (some (fileUrl (.domain []) (fileSegments names))) (c :: r)
      = readFile (some (fileUrl (.domain []) (fileSegments names))) (c :: r) := by
    have hmark : c ≠ '#' := fun heq => absurd hc (by rw [heq]; decide)
    cases names <;> simp [readWithoutScheme, fileUrl, fileSegments, hmark, isFileScheme]
  rw [join, read, hclean]
  simp only [hscheme]
  rw [hread, readFile_of_isPlain _ hc hcut hdrive, directoryStack_of_isPlainSegment hnames]
  rfl

/-- **A plain relative reference leads to the file that the walk reaches.** -/
theorem join_of_isPlainSegment {names front : List Text} (hnames : ∀ s ∈ names, IsPlainSegment s)
    (hfront : ∀ s ∈ front, IsPlainSegment s) {last : Text} (hlast : IsPlainName last) :
    ∃ url, (fileUrl (.domain []) (fileSegments names)).join (Text.join "/" (front ++ [last]))
        = .ok url ∧ url.toFilePath? = some (rooted (reach names.dropLast (front ++ [last]))) := by
  have hsegments : ∀ s ∈ front ++ [last], IsPlainSegment s := by
    refine List.forall_mem_append.mpr ⟨hfront, List.forall_mem_singleton.mpr (Or.inr hlast)⟩
  have hdirs : ∀ s ∈ names.dropLast, IsPlainSegment s := fun s hs =>
    hnames s (List.mem_of_mem_dropLast hs)
  have hpath := pathAfter_of_isPlainSegment hdirs hfront hlast
  have hchars := fun d => @isPlain_or_slash_of_mem_join (front ++ [last]) hsegments d
  obtain ⟨c, r, hjoin, hc⟩ := exists_join_eq_cons
    (List.append_ne_nil_of_right_ne_nil front (List.cons_ne_nil last [])) hsegments
  rw [hjoin] at hpath hchars
  refine ⟨fileUrl (.domain []) (reach names.dropLast (front ++ [last])), ?_, ?_⟩
  · rw [hjoin, join_eq_fileUrl hnames hc hchars, hpath]
  · refine toFilePath?_of_isPlainSegment ?_ (isPlainSegment_of_mem_reach hdirs hsegments)
    rw [reach_concat hlast]
    exact List.append_ne_nil_of_right_ne_nil _ (List.cons_ne_nil _ _)

/-! ## References to directories -/

/-- **A slash at the end** leaves an empty segment where the walk arrives. -/
theorem normalSegments_concat_nil {dirs segments : List Text}
    (hdirs : ∀ s ∈ dirs, IsPlainSegment s) (h : ∀ s ∈ segments, IsPlainSegment s) :
    normalSegments true dirs.reverse (segments ++ [[]]) = reach dirs segments ++ [[]] := by
  have hpush : ∀ stack : List Text, pushSegment true stack [] = [] :: stack := fun stack => by
    simp [pushSegment, isAbove, isHere, isDrive, Text.lowerAscii]
  rw [normalSegments_concat hdirs h, normalSegments, if_neg (by decide), hpush, List.reverse_cons,
    List.reverse_reverse]

/-- **A name of a directory at the end** leaves an empty segment, too. -/
theorem normalSegments_concat_dots {dirs segments : List Text} {last : Text}
    (hdirs : ∀ s ∈ dirs, IsPlainSegment s) (h : ∀ s ∈ segments, IsPlainSegment s)
    (hlast : last = ['.'] ∨ last = ['.', '.']) :
    normalSegments true dirs.reverse (segments ++ [last])
      = reach dirs (segments ++ [last]) ++ [[]] := by
  have harrived : ∀ s ∈ (reach dirs segments).reverse, IsPlainSegment s := fun s hs =>
    isPlainSegment_of_mem_reach hdirs h s (List.mem_reverse.mp hs)
  have hdots : (isAbove last || isHere last) = true := by
    rcases hlast with rfl | rfl <;> decide
  have hpush : (pushSegment true (reach dirs segments).reverse last).reverse
      = reach dirs (segments ++ [last]) := by
    rw [pushSegment_of_isPlainSegment harrived (Or.inl hlast), reach_append]
    rcases hlast with rfl | rfl
    · rw [if_pos (by decide), reach_cons_of_isIdle (by decide)]
      rfl
    · rw [if_neg (by decide)]
      rfl
  rw [normalSegments_concat hdirs h, normalSegments, if_pos hdots, List.reverse_cons, hpush]

theorem writtenSegments_append_slash (special : Bool) (t : Text) :
    writtenSegments special (t ++ ['/']) = writtenSegments special t ++ [[]] := by
  rw [writtenSegments, Text.splitBy_append_cons rfl, List.map_append]
  rfl

theorem dropEmptyFront_concat_nil {segments : List Text} (h : ∀ s ∈ segments, IsPlainSegment s) :
    dropEmptyFront (segments ++ [[]]) = segments ++ [[]] := by
  cases segments with
  | nil => rfl
  | cons s segments =>
    have hkept : (s :: (segments ++ [[]])).dropWhile (· == []) = s :: (segments ++ [[]]) :=
      List.dropWhile_cons_of_neg (by simpa using (h s List.mem_cons_self).ne_nil)
    rw [List.cons_append, dropEmptyFront, hkept]

/-- The path of a URL of a directory ends in a slash. -/
theorem toFilePath?_concat_nil {names : List Text} (h : ∀ s ∈ names, IsPlainSegment s) :
    (fileUrl (.domain []) (names ++ [[]])).toFilePath? = some (rooted (names ++ [[]])) := by
  have hdecode : (names ++ [[]]).flatMap (fun s => '/' :: Percent.decode s)
      = rooted (names ++ [[]]) := by
    rw [rooted_eq_flatMap (List.append_ne_nil_of_right_ne_nil names (List.cons_ne_nil [] []))]
    refine List.flatMap_congr (fun s hs => ?_)
    rcases List.mem_append.mp hs with hs | hs
    · rw [Percent.decode_eq_self (notMem_of_isPlain (h s hs).plain (by decide))]
    · rw [List.mem_singleton.mp hs]
      rfl
  have hlast : (rooted (names ++ [[]])).getLast? = some '/' := by
    rw [rooted_eq_flatMap (List.append_ne_nil_of_right_ne_nil names (List.cons_ne_nil [] [])),
      List.flatMap_append, List.flatMap_singleton, List.getLast?_concat]
  rw [toFilePath?_fileUrl (List.append_ne_nil_of_right_ne_nil names (List.cons_ne_nil [] [])),
    segmentPath, hdecode, closeDrive_of_getLast hlast (by decide) (by decide)]

section Directories

variable {names : List Text} (hnames : ∀ s ∈ names, IsPlainSegment s)

include hnames

/-- A reference whose segments come to an empty one leads to a directory. -/
theorem join_eq_directory {reached : List Text} {t : Text}
    (ht : ∃ c r, t = c :: r ∧ isPlain c = true) (hchars : ∀ c ∈ t, isPlain c = true ∨ c = '/')
    (hreached : ∀ s ∈ reached, IsPlainSegment s)
    (h : normalSegments true names.dropLast.reverse (writtenSegments true t) = reached ++ [[]]) :
    (fileUrl (.domain []) (fileSegments names)).join t
      = .ok (fileUrl (.domain []) (reached ++ [[]])) := by
  obtain ⟨c, r, rfl, hc⟩ := ht
  rw [join_eq_fileUrl hnames hc hchars]
  show Except.ok (fileUrl _ (dropEmptyFront (normalSegments true names.dropLast.reverse
    (writtenSegments true (c :: r))))) = _
  rw [h, dropEmptyFront_concat_nil hreached]

/-- **A reference with a slash at its end** leads to a directory. -/
theorem join_directory {segments : List Text} (hne : segments ≠ [])
    (hsegments : ∀ s ∈ segments, IsPlainSegment s) :
    (fileUrl (.domain []) (fileSegments names)).join (Text.join "/" segments ++ ['/'])
      = .ok (fileUrl (.domain []) (reach names.dropLast segments ++ [[]])) := by
  have hdirs : ∀ s ∈ names.dropLast, IsPlainSegment s := fun s hs =>
    hnames s (List.mem_of_mem_dropLast hs)
  obtain ⟨c, r, hjoin, hc⟩ := exists_join_eq_cons hne hsegments
  refine join_eq_directory hnames ⟨c, r ++ ['/'], by rw [hjoin, List.cons_append], hc⟩
    (fun d hd => ?_) (isPlainSegment_of_mem_reach hdirs hsegments) ?_
  · rcases List.mem_append.mp hd with hd | hd
    · exact isPlain_or_slash_of_mem_join hsegments hd
    · exact Or.inr (List.mem_singleton.mp hd)
  · rw [writtenSegments_append_slash,
      writtenSegments_join hne fun s hs => segmentSet_of_isPlainSegment (hsegments s hs),
      normalSegments_concat_nil hdirs hsegments]

/-- **A reference that ends in a name of a directory** leads to it. -/
theorem join_dots {front : List Text} {last : Text} (hfront : ∀ s ∈ front, IsPlainSegment s)
    (hlast : last = ['.'] ∨ last = ['.', '.']) :
    (fileUrl (.domain []) (fileSegments names)).join (Text.join "/" (front ++ [last]))
      = .ok (fileUrl (.domain []) (reach names.dropLast (front ++ [last]) ++ [[]])) := by
  have hdirs : ∀ s ∈ names.dropLast, IsPlainSegment s := fun s hs =>
    hnames s (List.mem_of_mem_dropLast hs)
  have hsegments : ∀ s ∈ front ++ [last], IsPlainSegment s :=
    List.forall_mem_append.mpr ⟨hfront, List.forall_mem_singleton.mpr (Or.inl hlast)⟩
  have hne : front ++ [last] ≠ [] := List.append_ne_nil_of_right_ne_nil _ (List.cons_ne_nil _ _)
  refine join_eq_directory hnames (exists_join_eq_cons hne hsegments)
    (fun d hd => isPlain_or_slash_of_mem_join hsegments hd)
    (isPlainSegment_of_mem_reach hdirs hsegments) ?_
  rw [writtenSegments_join hne fun s hs => segmentSet_of_isPlainSegment (hsegments s hs),
    normalSegments_concat_dots hdirs hfront hlast]

end Directories

end ModuleHooks.Url
