import ModuleHooks.Proofs.Text.Case
import ModuleHooks.Stylesheet.ClassMap
/-!
# Camel case is a normal form

The camel case of a class name is told by its words, and the words do not see how they are
separated: a run of hyphens and underscores parts them as a single one does
(`classWords_append_breaks`), and at either end it does nothing. Words are put together without a
separator, and no change of case brings one in, so what comes out is a single word. It begins with
a character in lower case, if the name has a word at all, and its own camel case therefore changes
nothing (`camelCase_camelCase`).

Only the first word is treated in its own way. Whatever follows a word of the name is appended to
the camel case of what stands before it, word by word (`camelCase_append`).
-/

namespace ModuleHooks

variable {name s t w : Text}

theorem isWordBreak_iff {c : Char} : isWordBreak c = true ↔ c = '-' ∨ c = '_' := by
  rw [isWordBreak, Bool.or_eq_true, beq_iff_eq, beq_iff_eq]

/-! ## The words of a name -/

/-- A separator parts the words before it from the words after it. -/
theorem classWords_append_cons {c : Char} (hc : isWordBreak c = true) (s t : Text) :
    classWords (s ++ c :: t) = classWords s ++ classWords t := by
  rw [classWords, Text.splitBy_append_cons hc, List.filter_append]
  rfl

/-- Separators at the front add no word. -/
theorem classWords_breaks_append {run : Text} (hrun : ∀ c ∈ run, isWordBreak c = true) (t : Text) :
    classWords (run ++ t) = classWords t := by
  induction run with
  | nil => rfl
  | cons c run ih =>
    obtain ⟨hc, hrun⟩ := List.forall_mem_cons.mp hrun
    exact (classWords_append_cons hc [] (run ++ t)).trans (ih hrun)

/-- **A run of separators** parts words as a single separator does. -/
theorem classWords_append_breaks {run : Text} (hne : run ≠ [])
    (hrun : ∀ c ∈ run, isWordBreak c = true) (s t : Text) :
    classWords (s ++ run ++ t) = classWords s ++ classWords t := by
  obtain ⟨c, run, rfl⟩ := List.exists_cons_of_ne_nil hne
  obtain ⟨hc, hrun⟩ := List.forall_mem_cons.mp hrun
  rw [List.append_assoc, List.cons_append, classWords_append_cons hc,
    classWords_breaks_append hrun]

/-- Separators at the end add no word. -/
theorem classWords_append_of_breaks {run : Text} (hrun : ∀ c ∈ run, isWordBreak c = true)
    (s : Text) : classWords (s ++ run) = classWords s := by
  by_cases hne : run = []
  · rw [hne, List.append_nil]
  · rw [← List.append_nil (s ++ run), classWords_append_breaks hne hrun]
    exact List.append_nil _

/-- A word holds a character, and no separator. -/
theorem ne_nil_and_of_mem_classWords (h : w ∈ classWords name) :
    w ≠ [] ∧ ∀ c ∈ w, isWordBreak c = false := by
  obtain ⟨hpiece, hne⟩ := List.mem_filter.mp h
  exact ⟨bne_iff_ne.mp hne, Text.eq_false_of_mem_splitBy hpiece⟩

/-- A text without separators is one word. -/
theorem classWords_of_forall (hne : w ≠ []) (h : ∀ c ∈ w, isWordBreak c = false) :
    classWords w = [w] := by
  rw [classWords, Text.splitBy_of_forall h, List.filter_singleton, bne_iff_ne.mpr hne]
  rfl

/-- A name with another character than separators has a word. -/
theorem classWords_ne_nil {d : Char} (hmem : d ∈ name) (hd : isWordBreak d = false) :
    classWords name ≠ [] := by
  induction name with
  | nil => cases hmem
  | cons c name ih =>
    cases hc : isWordBreak c with
    | true =>
      have hword : d ∈ name := (List.mem_cons.mp hmem).resolve_left fun h => by
        rw [h, hc] at hd
        cases hd
      have hwords : classWords (c :: name) = classWords name := classWords_append_cons hc [] name
      rw [hwords]
      exact ih hword
    | false =>
      obtain ⟨p, ps, hsplit⟩ := List.exists_cons_of_ne_nil (Text.splitBy_ne_nil isWordBreak name)
      have hwords : Text.splitBy isWordBreak (c :: name) = (c :: p) :: ps := by
        rw [Text.splitBy, hc, hsplit]
        rfl
      have hfirst : c :: p ∈ classWords (c :: name) := by
        rw [classWords, hwords]
        exact List.mem_filter.mpr ⟨List.mem_cons_self, bne_iff_ne.mpr (List.cons_ne_nil c p)⟩
      exact List.ne_nil_of_mem hfirst

/-! ## Words with another first character -/

/-- A change of case brings in no separator. -/
theorem forall_mem_change_append {f : Char → Text} {c : Char}
    (hf : ∀ {b}, b = '-' ∨ b = '_' → b ≠ c → b ∉ f c) (h : ∀ d ∈ c :: w, isWordBreak d = false) :
    ∀ d ∈ f c ++ w, isWordBreak d = false := by
  obtain ⟨hc, hw⟩ := List.forall_mem_cons.mp h
  refine List.forall_mem_append.mpr ⟨fun d hd => Bool.eq_false_of_not_eq_true fun hbreak => ?_, hw⟩
  refine hf (isWordBreak_iff.mp hbreak) ?_ hd
  rintro rfl
  rw [hc] at hbreak
  cases hbreak

theorem forall_mem_uncapitalised (h : ∀ c ∈ w, isWordBreak c = false) :
    ∀ c ∈ uncapitalised w, isWordBreak c = false := by
  cases w with
  | nil => exact h
  | cons c w => exact forall_mem_change_append Text.notMem_lowerChar h

theorem forall_mem_capitalised (h : ∀ c ∈ w, isWordBreak c = false) :
    ∀ c ∈ capitalised w, isWordBreak c = false := by
  cases w with
  | nil => exact h
  | cons c w => exact forall_mem_change_append Text.notMem_upperChar h

/-- A word that begins with a lower-case form keeps its beginning. -/
theorem uncapitalised_uncapitalised_append (hne : w ≠ []) (t : Text) :
    uncapitalised (uncapitalised w ++ t) = uncapitalised w ++ t := by
  obtain ⟨c, w, rfl⟩ := List.exists_cons_of_ne_nil hne
  obtain ⟨d, more, hlower, hfixed⟩ := Text.exists_lowerChar_eq c
  have hword : uncapitalised (c :: w) = d :: (more ++ w) := by
    rw [uncapitalised, hlower, List.cons_append]
  rw [hword, List.cons_append, uncapitalised, hfixed, List.singleton_append]

/-! ## The camel case of a name -/

/-- **Only the words count.** -/
theorem camelCase_congr (h : classWords s = classWords t) : camelCase s = camelCase t := by
  rw [camelCase, camelCase, h]

theorem camelCase_eq {ws : List Text} (h : classWords name = w :: ws) :
    camelCase name = uncapitalised w ++ ws.flatMap capitalised := by
  rw [camelCase, h]

/-- **Words behind the first one** are appended with a capital. -/
theorem camelCase_append {ws : List Text} (hs : classWords s ≠ [])
    (h : classWords t = classWords s ++ ws) :
    camelCase t = camelCase s ++ ws.flatMap capitalised := by
  obtain ⟨w, first, hfirst⟩ := List.exists_cons_of_ne_nil hs
  rw [hfirst, List.cons_append] at h
  rw [camelCase_eq h, camelCase_eq hfirst, List.flatMap_append, List.append_assoc]

/-- The camel case of a text without separators. -/
theorem camelCase_of_forall (h : ∀ c ∈ t, isWordBreak c = false) :
    camelCase t = uncapitalised t := by
  by_cases hne : t = []
  · rw [hne]
    rfl
  · rw [camelCase_eq (classWords_of_forall hne h), List.flatMap_nil, List.append_nil]

/-- **There is no separator in camel case.** -/
theorem forall_mem_camelCase (name : Text) : ∀ c ∈ camelCase name, isWordBreak c = false := by
  cases hwords : classWords name with
  | nil =>
    rw [camelCase, hwords]
    exact fun c hc => nomatch hc
  | cons w ws =>
    have hword : ∀ v ∈ w :: ws, ∀ c ∈ v, isWordBreak c = false := fun v hv =>
      (ne_nil_and_of_mem_classWords (hwords ▸ hv)).2
    rw [camelCase_eq hwords]
    refine List.forall_mem_append.mpr
      ⟨forall_mem_uncapitalised (hword w List.mem_cons_self), fun c hc => ?_⟩
    obtain ⟨v, hv, hmem⟩ := List.mem_flatMap.mp hc
    exact forall_mem_capitalised (hword v (List.mem_cons_of_mem w hv)) c hmem

/-- **Camel case is its own camel case.** -/
theorem camelCase_camelCase (name : Text) : camelCase (camelCase name) = camelCase name := by
  rw [camelCase_of_forall (forall_mem_camelCase name)]
  cases hwords : classWords name with
  | nil =>
    rw [camelCase, hwords]
    rfl
  | cons w ws =>
    have hne : w ≠ [] := (ne_nil_and_of_mem_classWords (hwords ▸ List.mem_cons_self)).1
    rw [camelCase_eq hwords, uncapitalised_uncapitalised_append hne]

/-- **Camel case is a normal form.**

* There is no hyphen and no underscore in it, and its own camel case is the same text.
* A run of separators may be replaced by any other one, and separators may be added at either end.
* Of a name that holds something else in front of a separator, the camel case is that of this front
  with the words behind the separator at its end, each with its first character in upper case and
  else as it is. -/
theorem camelCase_normalForm (name : Text) :
    '-' ∉ camelCase name ∧ '_' ∉ camelCase name
      ∧ camelCase (camelCase name) = camelCase name
      ∧ (∀ front run run' back : Text, name = front ++ run ++ back → run ≠ [] → run' ≠ [] →
        (∀ c ∈ run, c = '-' ∨ c = '_') → (∀ c ∈ run', c = '-' ∨ c = '_') →
        camelCase (front ++ run' ++ back) = camelCase name)
      ∧ (∀ pre post : Text, (∀ c ∈ pre, c = '-' ∨ c = '_') → (∀ c ∈ post, c = '-' ∨ c = '_') →
        camelCase (pre ++ name ++ post) = camelCase name)
      ∧ ∀ (front : Text) (c : Char) (rest : Text), name = front ++ c :: rest →
        (c = '-' ∨ c = '_') → (∃ d ∈ front, d ≠ '-' ∧ d ≠ '_') →
        camelCase name = camelCase front ++ (classWords rest).flatMap capitalised
          ∧ ∀ w ∈ classWords rest, ∃ d r, w = d :: r ∧ capitalised w = Text.upperChar d ++ r := by
  have hbreak := forall_mem_camelCase name
  have hrun : ∀ {run : Text}, (∀ c ∈ run, c = '-' ∨ c = '_') → ∀ c ∈ run, isWordBreak c = true :=
    fun h c hc => isWordBreak_iff.mpr (h c hc)
  refine ⟨fun h => absurd (hbreak _ h) (by decide), fun h => absurd (hbreak _ h) (by decide),
    camelCase_camelCase name, ?_, fun pre post hpre hpost => ?_, ?_⟩
  · rintro front run run' back rfl hne hne' hbreaks hbreaks'
    refine camelCase_congr ?_
    rw [classWords_append_breaks hne (hrun hbreaks), classWords_append_breaks hne' (hrun hbreaks')]
  · refine camelCase_congr ?_
    rw [classWords_append_of_breaks (hrun hpost), classWords_breaks_append (hrun hpre)]
  · rintro front c rest rfl hc ⟨d, hd, hother⟩
    have hword : isWordBreak d = false :=
      Bool.eq_false_of_not_eq_true (mt isWordBreak_iff.mp (not_or.mpr hother))
    refine ⟨camelCase_append (classWords_ne_nil hd hword)
      (classWords_append_cons (isWordBreak_iff.mpr hc) front rest), fun w hw => ?_⟩
    obtain ⟨d, r, rfl⟩ := List.exists_cons_of_ne_nil (ne_nil_and_of_mem_classWords hw).1
    exact ⟨d, r, rfl, rfl⟩

/-- One separator does what three do, and a word whose capital is two letters is appended with
them. -/
theorem camelCase_normalForm_sharp :
    camelCase "-Main--_Nav_ßa".toList = camelCase "-Main_Nav_ßa".toList
      ∧ camelCase "-Main--_Nav_ßa".toList = camelCase "-Main--_Nav".toList ++ "SSa".toList := by
  obtain ⟨-, -, -, hrun, -, hrest⟩ := camelCase_normalForm "-Main--_Nav_ßa".toList
  have hreplaced := hrun "-Main".toList "--_".toList "_".toList "Nav_ßa".toList (by decide)
    (by decide) (by decide) (by simp) (by simp)
  have happended := hrest "-Main--_Nav".toList '_' "ßa".toList (by decide) (by decide)
    ⟨'M', by decide, by decide⟩
  exact ⟨hreplaced.symm, happended.1.trans (by decide +kernel)⟩

end ModuleHooks
