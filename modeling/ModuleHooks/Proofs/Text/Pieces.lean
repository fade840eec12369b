import Mathlib
import ModuleHooks.Text.Basic
/-!
# Pieces of a text

A text is cut into pieces at separators, and pieces are put together again.
`Text.splitBy` is the splitting of the standard library under a name of its
own (`splitBy_eq_splitOnP`), so that its laws can be used: what a join of
pieces without separators splits into, and that the join of the pieces of a
text is the text.

What is added here is what the readers of paths, references and specifiers
ask about the *last* piece, what is trimmed from the ends, and the cuts at a
first or a last occurrence. Where a fact about characters is a matter of going
through them, `forall_ascii` does so. In ASCII a character that is no letter is
the lower-case form of itself only (`toLower_eq_iff`), so a text may be put into
lower case before or after it is cut.
-/

namespace ModuleHooks.Text

/-! ## Splitting and joining -/

/-- **Splitting is the splitting of the standard library.** -/
theorem splitBy_eq_splitOnP (sep : Char → Bool) (t : Text) :
    splitBy sep t = List.splitOnP sep t := by
  induction t with
  | nil => rfl
  | cons c r ih =>
    rw [splitBy, List.splitOnP_cons_eq_if_modifyHead, ih]
    cases h : List.splitOnP sep r with
    | nil => exact absurd h (List.splitOnP_ne_nil sep r)
    | cons p ps => rfl

theorem splitOn_eq_splitOn (c : Char) (t : Text) : splitOn c t = List.splitOn c t := by
  rw [splitOn, splitBy_eq_splitOnP, List.splitOn_eq_splitOnP]

theorem splitBy_ne_nil (sep : Char → Bool) (t : Text) : splitBy sep t ≠ [] := by
  rw [splitBy_eq_splitOnP]
  exact List.splitOnP_ne_nil sep t

theorem splitOn_ne_nil (c : Char) (t : Text) : splitOn c t ≠ [] := splitBy_ne_nil _ t

/-- A separator parts the pieces before it from the pieces after it. -/
theorem splitBy_append_cons {sep : Char → Bool} {c : Char} (hc : sep c = true) (s t : Text) :
    splitBy sep (s ++ c :: t) = splitBy sep s ++ splitBy sep t := by
  simp only [splitBy_eq_splitOnP]
  exact List.splitOnP_append_cons s t hc

theorem splitOn_append_cons (c : Char) (s t : Text) :
    splitOn c (s ++ c :: t) = splitOn c s ++ splitOn c t := by
  simp only [splitOn_eq_splitOn]
  exact List.splitOn_append_cons_self s t

/-- Only the characters of the text decide where it is split. -/
theorem splitBy_congr {sep sep' : Char → Bool} {t : Text} (h : ∀ c ∈ t, sep c = sep' c) :
    splitBy sep t = splitBy sep' t := by
  induction t with
  | nil => rfl
  | cons c r ih =>
    obtain ⟨hc, hr⟩ := List.forall_mem_cons.mp h
    rw [splitBy, splitBy, hc, ih hr]

/-- A text without separators is one piece. -/
theorem splitBy_of_forall {sep : Char → Bool} {t : Text} (h : ∀ c ∈ t, sep c = false) :
    splitBy sep t = [t] := by
  rw [splitBy_eq_splitOnP]
  exact List.splitOnP_eq_singleton h

theorem splitOn_of_notMem {c : Char} {t : Text} (h : c ∉ t) : splitOn c t = [t] := by
  rw [splitOn_eq_splitOn]
  exact List.splitOn_eq_singleton h

/-- No piece holds a separator. -/
theorem eq_false_of_mem_splitBy {sep : Char → Bool} {t p : Text} (hp : p ∈ splitBy sep t) :
    ∀ c ∈ p, sep c = false := by
  induction t generalizing p with
  | nil =>
    rw [splitBy_nil, List.mem_singleton] at hp
    rw [hp]
    exact fun c hc => absurd hc List.not_mem_nil
  | cons d r ih =>
    rw [splitBy] at hp
    by_cases hd : sep d = true
    · rw [if_pos hd, List.mem_cons] at hp
      rcases hp with rfl | hp
      · exact fun c hc => absurd hc List.not_mem_nil
      · exact ih hp
    · rw [if_neg hd] at hp
      cases hs : splitBy sep r with
      | nil => exact absurd hs (splitBy_ne_nil sep r)
      | cons q qs =>
        rw [hs] at hp ih
        rcases List.mem_cons.mp hp with rfl | hp
        · intro c hc
          rcases List.mem_cons.mp hc with rfl | hc
          · exact Bool.eq_false_of_not_eq_true hd
          · exact ih List.mem_cons_self c hc
        · exact ih (List.mem_cons_of_mem q hp)

theorem notMem_of_mem_splitOn {c : Char} {t p : Text} (hp : p ∈ splitOn c t) : c ∉ p := by
  intro hc
  have h := eq_false_of_mem_splitBy hp c hc
  rw [beq_self_eq_true] at h
  exact absurd h (by decide)

/-- **The join of the pieces is the text.** -/
theorem join_splitOn (c : Char) (t : Text) : join [c] (splitOn c t) = t := by
  rw [join, splitOn_eq_splitOn, List.intercalate_splitOn]

/-- **The pieces of a join are the pieces joined**, if none of them holds a
separator. -/
theorem splitOn_join {c : Char} {pieces : List Text} (hne : pieces ≠ [])
    (h : ∀ p ∈ pieces, c ∉ p) : splitOn c (join [c] pieces) = pieces := by
  rw [join, splitOn_eq_splitOn]
  exact List.splitOn_intercalate c h hne

@[simp] theorem join_singleton (sep p : Text) : join sep [p] = p := List.intercalate_singleton

theorem join_cons {sep : Text} (p : Text) {pieces : List Text} (hne : pieces ≠ []) :
    join sep (p :: pieces) = p ++ sep ++ join sep pieces :=
  List.intercalate_cons_of_ne_nil hne

/-- Pieces are joined by writing a separator in front of each and dropping the
first. -/
theorem cons_join (c : Char) {pieces : List Text} (hne : pieces ≠ []) :
    c :: join [c] pieces = pieces.flatMap fun p => c :: p := by
  induction pieces with
  | nil => exact absurd rfl hne
  | cons p ps ih =>
    cases ps with
    | nil => rw [join_singleton, List.flatMap_singleton]
    | cons q qs =>
      rw [join_cons p (List.cons_ne_nil q qs), List.flatMap_cons, ← ih (List.cons_ne_nil q qs)]
      simp only [List.append_assoc, List.cons_append, List.nil_append]

/-- A join consists of separators and of what the pieces hold. -/
theorem eq_or_exists_of_mem_join {c d : Char} {pieces : List Text} (h : d ∈ join [c] pieces) :
    d = c ∨ ∃ p ∈ pieces, d ∈ p := by
  by_cases hne : pieces = []
  · rw [hne] at h
    exact absurd h List.not_mem_nil
  have hcons : d ∈ pieces.flatMap fun p => c :: p := by
    rw [← cons_join c hne]
    exact List.mem_cons_of_mem c h
  obtain ⟨p, hp, hmem⟩ := List.mem_flatMap.mp hcons
  exact (List.mem_cons.mp hmem).imp_right fun hd => ⟨p, hp, hd⟩

/-- A piece stands in the text. -/
theorem isInfix_of_mem_splitOn {c : Char} {t p : Text} (hp : p ∈ splitOn c t) : p <:+: t := by
  obtain ⟨ps, qs, hsplit⟩ := List.append_of_mem hp
  have hcons : c :: t = ps.flatMap (fun p => c :: p) ++ (c :: p ++ qs.flatMap fun p => c :: p) := by
    rw [← List.flatMap_cons, ← List.flatMap_append, ← hsplit, ← cons_join c (splitOn_ne_nil c t),
      join_splitOn]
  cases hfront : ps.flatMap (fun p => c :: p) with
  | nil =>
    rw [hfront] at hcons
    exact ⟨[], _, (List.cons_eq_cons.mp hcons).2.symm⟩
  | cons d front =>
    rw [hfront] at hcons
    rw [List.cons_append] at hcons
    refine ⟨front ++ [c], qs.flatMap fun p => c :: p, ?_⟩
    rw [(List.cons_eq_cons.mp hcons).2]
    simp only [List.append_assoc, List.cons_append, List.nil_append]

/-- A join of two lists of pieces. -/
theorem join_append {c : Char} {ps qs : List Text} (hp : ps ≠ []) (hq : qs ≠ []) :
    join [c] (ps ++ qs) = join [c] ps ++ c :: join [c] qs := by
  have h : c :: join [c] (ps ++ qs) = c :: (join [c] ps ++ c :: join [c] qs) := by
    rw [cons_join c (List.append_ne_nil_of_left_ne_nil hp qs), List.flatMap_append,
      ← cons_join c hp, ← cons_join c hq, List.cons_append]
  exact List.tail_eq_of_cons_eq h

/-- What is written after a join is written after its last piece. -/
theorem join_concat_append (c : Char) (ps : List Text) (p more : Text) :
    join [c] (ps ++ [p]) ++ more = join [c] (ps ++ [p ++ more]) := by
  by_cases hp : ps = []
  · rw [hp, List.nil_append, List.nil_append, join_singleton, join_singleton]
  · rw [join_append hp (List.cons_ne_nil _ _), join_append hp (List.cons_ne_nil _ _),
      join_singleton, join_singleton, List.append_assoc, List.cons_append]

/-! ## The last piece -/

/-- What follows the last separator. -/
def lastPiece (sep : Char → Bool) (t : Text) : Text := ((splitBy sep t).getLast?).getD []

/-- **The last piece is told by what follows any separator.** -/
theorem lastPiece_append_cons {sep : Char → Bool} {c : Char} (hc : sep c = true) (s t : Text) :
    lastPiece sep (s ++ c :: t) = lastPiece sep t := by
  rw [lastPiece, lastPiece, splitBy_append_cons hc,
    List.getLast?_append_of_ne_nil _ (splitBy_ne_nil sep t)]

theorem lastPiece_of_forall {sep : Char → Bool} {t : Text} (h : ∀ c ∈ t, sep c = false) :
    lastPiece sep t = t := by
  rw [lastPiece, splitBy_of_forall h]
  rfl

theorem lastPiece_mem (sep : Char → Bool) (t : Text) : lastPiece sep t ∈ splitBy sep t := by
  refine List.mem_of_getLast? ?_
  rw [lastPiece, List.getLast?_eq_some_getLast (splitBy_ne_nil sep t)]
  rfl

/-- There is no separator in the last piece. -/
theorem notMem_lastPiece (c : Char) (t : Text) : c ∉ lastPiece (· == c) t :=
  notMem_of_mem_splitOn (lastPiece_mem _ t)

/-- **A text is its last piece**, or something that ends in a separator and
then its last piece. -/
theorem eq_lastPiece_or (sep : Char → Bool) (t : Text) :
    t = lastPiece sep t ∨ ∃ s c, sep c = true ∧ t = s ++ c :: lastPiece sep t := by
  induction t with
  | nil => exact Or.inl rfl
  | cons d r ih =>
    rcases ih with ih | ⟨s, c, hc, ih⟩
    · by_cases hd : sep d = true
      · refine Or.inr ⟨[], d, hd, ?_⟩
        rw [← List.nil_append (d :: r), lastPiece_append_cons hd, ← ih]
      · refine Or.inl (lastPiece_of_forall ?_).symm
        have hr : ∀ c ∈ r, sep c = false := by
          rw [ih]
          exact eq_false_of_mem_splitBy (lastPiece_mem sep r)
        exact List.forall_mem_cons.mpr ⟨Bool.eq_false_of_not_eq_true hd, hr⟩
    · refine Or.inr ⟨d :: s, c, hc, ?_⟩
      have hlast : lastPiece sep (d :: r) = lastPiece sep r := by
        rw [ih, ← List.cons_append, lastPiece_append_cons hc, lastPiece_append_cons hc]
      rw [hlast, List.cons_append, ← ih]

/-- Other characters at the end are characters of the last piece. -/
theorem lastPiece_append {sep : Char → Bool} {more : Text} (h : ∀ c ∈ more, sep c = false)
    (t : Text) : lastPiece sep (t ++ more) = lastPiece sep t ++ more := by
  have hlast : lastPiece sep (lastPiece sep t ++ more) = lastPiece sep t ++ more :=
    lastPiece_of_forall (List.forall_mem_append.mpr
      ⟨eq_false_of_mem_splitBy (lastPiece_mem sep t), h⟩)
  rcases eq_lastPiece_or sep t with ht | ⟨s, c, hc, ht⟩
  · rw [← ht] at hlast ⊢
    exact hlast
  · rw [ht, List.append_assoc, List.cons_append, lastPiece_append_cons hc, hlast,
      lastPiece_append_cons hc, lastPiece_of_forall (eq_false_of_mem_splitBy (lastPiece_mem sep t))]

/-! ## Trimming -/

/-- Nothing is trimmed from a text that ends in another character. -/
theorem trimEnd_concat {blank : Char → Bool} {c : Char} (hc : blank c = false) (t : Text) :
    trimEnd blank (t ++ [c]) = t ++ [c] := by
  rw [trimEnd, List.reverse_concat,
    List.dropWhile_cons_of_neg (by rw [hc]; exact Bool.false_ne_true), ← List.reverse_concat,
    List.reverse_reverse]

/-- Blanks at the end are trimmed before anything else. -/
theorem trimEnd_append {blank : Char → Bool} {post : Text} (hpost : ∀ c ∈ post, blank c = true)
    (t : Text) : trimEnd blank (t ++ post) = trimEnd blank t := by
  rw [trimEnd, List.reverse_append, List.dropWhile_append_of_pos, ← trimEnd]
  exact fun c hc => hpost c (List.mem_reverse.mp hc)

/-- **What is trimmed is blank**, and what is left does not end in a blank. -/
theorem exists_eq_trimEnd_append (blank : Char → Bool) (t : Text) :
    ∃ post, t = trimEnd blank t ++ post ∧ (∀ c ∈ post, blank c = true)
      ∧ (trimEnd blank t = [] ∨ ∃ s c, trimEnd blank t = s ++ [c] ∧ blank c = false) := by
  induction t using List.reverseRecOn with
  | nil => exact ⟨[], rfl, fun c hc => absurd hc List.not_mem_nil, Or.inl rfl⟩
  | append_singleton t c ih =>
    by_cases hc : blank c = true
    · obtain ⟨post, hsplit, hpost, hend⟩ := ih
      have htrim : trimEnd blank (t ++ [c]) = trimEnd blank t :=
        trimEnd_append (List.forall_mem_singleton.mpr hc) t
      refine ⟨post ++ [c], ?_, ?_, by rw [htrim]; exact hend⟩
      · rw [htrim, ← List.append_assoc, ← hsplit]
      · exact List.forall_mem_append.mpr ⟨hpost, List.forall_mem_singleton.mpr hc⟩
    · have hkept := trimEnd_concat (Bool.eq_false_of_not_eq_true hc) t
      refine ⟨[], ?_, fun c hc => absurd hc List.not_mem_nil, Or.inr ⟨t, c, hkept, ?_⟩⟩
      · rw [hkept, List.append_nil]
      · exact Bool.eq_false_of_not_eq_true hc

/-- **A text with no blank at either end.** -/
structure IsTrimmed (blank : Char → Bool) (t : Text) : Prop where
  first : ∀ c ∈ t.head?, blank c = false
  last : ∀ c ∈ t.getLast?, blank c = false

section Trimmed

variable {blank : Char → Bool} {pre core post t : Text}

theorem isTrimmed_nil : IsTrimmed blank [] where
  first _ hc := nomatch hc
  last _ hc := nomatch hc

/-- Nothing is trimmed from a text that begins with another character. -/
theorem trimStart_of_head (h : ∀ c ∈ t.head?, blank c = false) : trimStart blank t = t := by
  cases t with
  | nil => rfl
  | cons c t => exact List.dropWhile_cons_of_neg (by rw [h c rfl]; exact Bool.false_ne_true)

/-- The first character that is left is no blank. -/
theorem head_trimStart (blank : Char → Bool) (t : Text) :
    ∀ c ∈ (trimStart blank t).head?, blank c = false := by
  induction t with
  | nil => exact fun c hc => nomatch hc
  | cons d t ih =>
    by_cases hd : blank d = true
    · rw [trimStart, List.dropWhile_cons_of_pos hd]
      exact ih
    · rw [trimStart, List.dropWhile_cons_of_neg hd]
      rintro c ⟨⟩
      exact Bool.eq_false_of_not_eq_true hd

/-- **What is left by trimming**: a text with blanks around it is trimmed down to the text. -/
theorem trim_append_append (hpre : ∀ c ∈ pre, blank c = true) (hcore : IsTrimmed blank core)
    (hpost : ∀ c ∈ post, blank c = true) : trim blank (pre ++ core ++ post) = core := by
  rw [trim, List.append_assoc, trimStart, List.dropWhile_append_of_pos hpre, ← trimStart]
  -- With an empty core, the blanks behind it are trimmed from the front.
  cases core using List.reverseRecOn with
  | nil =>
    have hnone : trimStart blank post = [] := List.dropWhile_eq_nil_iff.mpr hpost
    rw [List.nil_append, hnone]
    rfl
  | append_singleton s d =>
    have hlast : blank d = false := hcore.last d List.getLast?_concat
    have hfirst : ∀ c ∈ (s ++ [d] ++ post).head?, blank c = false := by
      rw [List.head?_append_of_ne_nil _ (List.concat_ne_nil d s)]
      exact hcore.first
    rw [trimStart_of_head hfirst, trimEnd_append hpost, trimEnd_concat hlast]

theorem trim_of_isTrimmed (h : IsTrimmed blank t) : trim blank t = t := by
  have htrim : trim blank ([] ++ t ++ []) = t :=
    trim_append_append (fun c hc => nomatch hc) h fun c hc => nomatch hc
  rwa [List.append_nil, List.nil_append] at htrim

/-- **What is left has no blank at either end**, and there were blanks around it. -/
theorem exists_eq_append_trim (blank : Char → Bool) (t : Text) :
    IsTrimmed blank (trim blank t) ∧ ∃ pre post, t = pre ++ trim blank t ++ post
      ∧ (∀ c ∈ pre, blank c = true) ∧ ∀ c ∈ post, blank c = true := by
  obtain ⟨post, hsplit, hpost, hend⟩ := exists_eq_trimEnd_append blank (trimStart blank t)
  rw [← trim] at hsplit hend
  refine ⟨?_, t.takeWhile blank, post, ?_, fun c hc => List.mem_takeWhile_imp hc, hpost⟩
  · rcases hend with hnil | ⟨s, d, hs, hd⟩
    · rw [hnil]
      exact isTrimmed_nil
    · refine ⟨fun c hc => head_trimStart blank t c ?_, fun c hc => ?_⟩
      · rw [hsplit, hs, List.head?_append_of_ne_nil _ (List.concat_ne_nil d s), ← hs]
        exact hc
      · rw [hs, List.getLast?_concat] at hc
        cases hc
        exact hd
  · rw [List.append_assoc, ← hsplit]
    exact List.takeWhile_append_dropWhile.symm

end Trimmed

/-! ## Cuts -/

/-- There is no last occurrence of a character that does not occur. -/
theorem splitLast?_of_notMem {c : Char} {t : Text} (h : c ∉ t) : splitLast? c t = none := by
  induction t with
  | nil => rfl
  | cons d r ih =>
    rw [List.mem_cons, not_or] at h
    rw [splitLast?, ih h.2]
    exact if_neg (Ne.symm h.1)

/-- **The cut at the last occurrence** of a character. -/
theorem splitLast?_append_cons {c : Char} (s : Text) {t : Text} (h : c ∉ t) :
    splitLast? c (s ++ c :: t) = some (s, t) := by
  induction s with
  | nil => rw [List.nil_append, splitLast?, splitLast?_of_notMem h]; exact if_pos rfl
  | cons d s ih => rw [List.cons_append, splitLast?, ih]

/-- Every text that holds a character is cut at its last occurrence. -/
theorem exists_eq_append_cons_of_mem {c : Char} {t : Text} (h : c ∈ t) :
    ∃ s r, t = s ++ c :: r ∧ c ∉ r := by
  obtain ⟨s, r, hsplit, hs⟩ := List.eq_append_cons_of_mem (List.mem_reverse.mpr h)
  refine ⟨r.reverse, s.reverse, ?_, fun hc => hs (List.mem_reverse.mp hc)⟩
  rw [← List.reverse_reverse t, hsplit, List.reverse_append, List.reverse_cons, List.append_assoc,
    List.singleton_append]

/-- What is stripped from the front stood there. -/
theorem eq_of_stripStart? {p t rest : Text} (h : stripStart? p t = some rest) : t = p ++ rest := by
  induction p generalizing t with
  | nil =>
    rw [stripStart?_nil, Option.some_inj] at h
    exact h
  | cons a p ih =>
    cases t with
    | nil => cases h
    | cons b t =>
      rw [stripStart?] at h
      split_ifs at h with hab
      rw [ih h, hab, List.cons_append]

/-- There is no first occurrence of a character that does not occur. -/
theorem splitFirst?_of_notMem {c : Char} {t : Text} (h : c ∉ t) : splitFirst? [c] t = none := by
  induction t with
  | nil => rfl
  | cons d r ih =>
    rw [List.mem_cons, not_or] at h
    have hd : stripStart? [c] (d :: r) = none := if_neg h.1
    rw [splitFirst?, hd, ih h.2]
    rfl

/-- **The cut at the first occurrence** of a character. -/
theorem splitFirst?_append_cons {c : Char} {s : Text} (h : c ∉ s) (t : Text) :
    splitFirst? [c] (s ++ c :: t) = some (s, t) := by
  induction s with
  | nil =>
    have hc : stripStart? [c] (c :: t) = some t := by
      rw [stripStart?, if_pos rfl, stripStart?_nil]
    rw [List.nil_append, splitFirst?, hc]
  | cons d s ih =>
    rw [List.mem_cons, not_or] at h
    have hd : stripStart? [c] (d :: (s ++ c :: t)) = none := if_neg h.1
    rw [List.cons_append, splitFirst?, hd, ih h.2]
    rfl

/-! ## ASCII characters -/

/-- **What holds of the characters below 128 one by one** holds of all of
them. -/
theorem forall_ascii {p : Char → Bool} (h : ∀ n, n < 128 → p (Char.ofNat n) = true) {c : Char}
    (hc : c.toNat < 128) : p c = true := by
  rw [← Char.ofNat_toNat c]
  exact h c.toNat hc

/-- Other characters have no case. -/
theorem toLower_of_not_ascii {c : Char} (hc : 128 ≤ c.toNat) : c.toLower = c := by
  unfold Char.toLower
  refine dif_neg (fun h => ?_)
  have hle : c.toNat ≤ 'Z'.toNat := UInt32.le_iff_toNat_le.mp h.2
  exact absurd (hc.trans hle) (by decide)

/-- **What is no letter** is the lower-case form of itself only. -/
theorem toLower_eq_iff {c d : Char} (hd : d.isAlpha = false) : c.toLower = d ↔ c = d := by
  have hsame : ∀ c : Char, c.isAlpha = false → c.toLower = c := fun c hc =>
    Char.toLower_eq_of_not_isUpper fun hupper => by
      rw [Char.isAlpha, hupper] at hc
      cases hc
  constructor
  · intro h
    have hc : c.isAlpha = false := by rw [← Char.isAlpha_toLower_eq_isAlpha, h, hd]
    rw [← hsame c hc, h]
  · rintro rfl
    exact hsame c hd

/-- What is no letter is the upper-case form of itself only. -/
theorem toUpper_eq_iff {c d : Char} (hd : d.isAlpha = false) : c.toUpper = d ↔ c = d := by
  have hsame : ∀ c : Char, c.isAlpha = false → c.toUpper = c := fun c hc =>
    Char.toUpper_eq_of_not_isLower fun hlower => by
      rw [Char.isAlpha, hlower, Bool.or_true] at hc
      cases hc
  constructor
  · intro h
    have hc : c.isAlpha = false := by rw [← Char.isAlpha_toUpper_eq_isAlpha, h, hd]
    rw [← hsame c hc, h]
  · rintro rfl
    exact hsame c hd

theorem lowerAscii_lowerAscii (t : Text) : lowerAscii (lowerAscii t) = lowerAscii t := by
  rw [lowerAscii, lowerAscii, List.map_map]
  exact List.map_congr_left fun c _ => Char.toLower_toLower_eq_toLower c

/-- **A text in lower case is cut where the text is cut**, if no separator is a letter. -/
theorem splitBy_lowerAscii {sep : Char → Bool} (hsep : ∀ c, sep c.toLower = sep c) (t : Text) :
    splitBy sep (lowerAscii t) = (splitBy sep t).map lowerAscii := by
  induction t with
  | nil => rfl
  | cons c t ih =>
    have hcons : lowerAscii (c :: t) = c.toLower :: lowerAscii t := rfl
    rw [hcons, splitBy, splitBy, hsep, ih]
    split_ifs
    · rfl
    · cases splitBy sep t <;> rfl

/-- The last occurrence of a character that is no letter is the last one in lower case, too. -/
theorem splitLast?_lowerAscii {c : Char} (hc : c.isAlpha = false) (t : Text) :
    splitLast? c (lowerAscii t) = (splitLast? c t).map (Prod.map lowerAscii lowerAscii) := by
  induction t with
  | nil => rfl
  | cons d t ih =>
    have hcons : lowerAscii (d :: t) = d.toLower :: lowerAscii t := rfl
    rw [hcons, splitLast?, splitLast?, ih]
    cases splitLast? c t with
    | some parts => rfl
    | none =>
      by_cases hd : d = c
      · rw [if_pos hd, Option.map_none, if_pos ((toLower_eq_iff hc).mpr hd)]
        rfl
      · rw [if_neg hd, Option.map_none, if_neg (mt (toLower_eq_iff hc).mp hd)]

end ModuleHooks.Text
