import ModuleHooks.Proofs.Path.Steps
import ModuleHooks.Specifier.Extension
/-!
# The extension of a specifier

The class of a specifier is told by what follows its last slash of either kind
(`classify_append_cons`), and of that by what follows the last dot. So much of
a text may change without changing its class, which is what makes it possible
to compare the class of a specifier with that of the path it leads to.

Three kinds of text are never intercepted: those that end in a character in
which no known extension ends (`classify_concat`), the names of directories
among them, and those that end in `.js` (`classify_append_js`), which are all
the specifiers that are asked for in a second attempt.

A path is asked for its extension by another rule, too. Imports are sorted by
what follows the last slash *or backslash*; everything that has to do with files
goes by the file name, in which a backslash is a character like any other. The
two agree whenever the first finds an extension at all
(`exists_fileName?_of_extension`): the file name then ends in it, with something
in front of the dot.
-/

namespace ModuleHooks.Specifier

/-! ## What the class depends on -/

/-- One class is left to the host. -/
theorem isIntercepted_eq_false_iff {c : ExtensionClass} :
    c.isIntercepted = false ↔ c = .notIntercepted := by
  cases c <;> decide

/-- **Only what follows the last slash counts.** -/
theorem extension_append_cons {c : Char} (hc : isSlash c = true) (s t : Text) :
    extension (s ++ c :: t) = extension t := by
  have h : lastSegment (s ++ c :: t) = lastSegment t := Text.lastPiece_append_cons hc s t
  rw [extension, h]
  rfl

theorem classify_append_cons {c : Char} (hc : isSlash c = true) (s t : Text) :
    classify (s ++ c :: t) = classify t := by
  rw [classify, extension_append_cons hc, classify]

theorem classify_cons {c : Char} (hc : isSlash c = true) (t : Text) :
    classify (c :: t) = classify t :=
  classify_append_cons hc [] t

/-- An extension ends in the last character of the text. -/
theorem getLast?_extension (t : Text) (c : Char) :
    extension (t ++ [c]) = [] ∨ (extension (t ++ [c])).getLast? = some c.toLower := by
  by_cases hslash : isSlash c = true
  · refine Or.inl ?_
    have h : lastSegment (t ++ [c]) = [] := Text.lastPiece_append_cons hslash t []
    rw [extension, h]
    rfl
  have hmore : ∀ d ∈ [c], isSlash d = false :=
    List.forall_mem_singleton.mpr (Bool.eq_false_of_not_eq_true hslash)
  have hlast : lastSegment (t ++ [c]) = lastSegment t ++ [c] := Text.lastPiece_append hmore t
  rw [extension, hlast]
  by_cases hdot : '.' ∈ lastSegment t ++ [c]
  · obtain ⟨stem, after, hsplit, hafter⟩ := Text.exists_eq_append_cons_of_mem hdot
    have hc : ('.' :: after).getLast? = some c := by
      have hlast := congrArg List.getLast? hsplit
      rw [List.getLast?_concat, List.getLast?_append_of_ne_nil _ (List.cons_ne_nil _ _)] at hlast
      exact hlast.symm
    rw [hsplit, Text.splitLast?_append_cons stem hafter]
    cases stem with
    | nil => exact Or.inl rfl
    | cons d stem =>
      refine Or.inr ?_
      show (('.' :: after).map Char.toLower).getLast? = some c.toLower
      rw [List.getLast?_map, hc]
      rfl
  · rw [Text.splitLast?_of_notMem hdot]
    exact Or.inl rfl

/-- **A character in which no known extension ends** leaves the text to the
host. -/
theorem classify_concat (t : Text) {c : Char}
    (hc : ∀ e ∈ ExtensionClass.stylesheetExtensions ++ ExtensionClass.assetExtensions,
      e.getLast? ≠ some c.toLower) : classify (t ++ [c]) = .notIntercepted := by
  have hmem : extension (t ++ [c])
      ∉ ExtensionClass.stylesheetExtensions ++ ExtensionClass.assetExtensions := by
    intro hmem
    rcases getLast?_extension t c with hnil | hlast
    · rw [hnil] at hmem
      exact absurd hmem (by decide)
    · exact hc _ hmem hlast
  rw [List.mem_append, not_or] at hmem
  rw [classify, ExtensionClass.ofExtension, if_neg, if_neg]
  · rw [List.contains_iff_mem]
    exact hmem.2
  · rw [List.contains_iff_mem]
    exact hmem.1

/-- **Scripts are left to the host.** -/
theorem classify_append_js (t : Text) : classify (t ++ ".js".toList) = .notIntercepted := by
  have hlast : lastSegment (t ++ ".js".toList) = lastSegment t ++ '.' :: "js".toList :=
    Text.lastPiece_append (by simp [isSlash]) t
  rw [classify, extension, hlast, Text.splitLast?_append_cons _ (by decide)]
  cases lastSegment t with
  | nil => decide
  | cons c stem =>
    show ExtensionClass.ofExtension (Text.lowerAscii ('.' :: "js".toList)) = _
    decide

/-! ## The name of a file -/

/-- The last segment is that of the file name. -/
theorem lastSegment_lastPiece (p : Path) :
    lastSegment (Text.lastPiece (· == '/') p) = lastSegment p := by
  rcases Text.eq_lastPiece_or (· == '/') p with hp | ⟨s, c, hc, hp⟩
  · rw [← hp]
  · have hslash : isSlash c = true := by
      rw [isSlash, beq_iff_eq.mp hc]
      rfl
    conv_rhs => rw [hp]
    exact (Text.lastPiece_append_cons hslash s _).symm

/-- **The file name of a path** ends in the last segment of the specifier that
the path is. -/
theorem exists_lastPiece_eq (p : Path) :
    ∃ front, Text.lastPiece (· == '/') p = front ++ lastSegment p := by
  rw [← lastSegment_lastPiece]
  rcases Text.eq_lastPiece_or isSlash (Text.lastPiece (· == '/') p) with h | ⟨s, c, -, h⟩
  · exact ⟨[], h⟩
  · exact ⟨s ++ [c], by rw [List.append_assoc, List.singleton_append]; exact h⟩

/-- An extension stands behind the last dot of the last segment, and there is
something in front of the dot. -/
theorem exists_lastSegment_of_extension {p : Path} {e : Text} (h : extension p = '.' :: e) :
    ∃ stem ext, stem ≠ [] ∧ '.' ∉ ext ∧ Text.lowerAscii ext = e
      ∧ lastSegment p = stem ++ '.' :: ext := by
  by_cases hdot : '.' ∈ lastSegment p
  · obtain ⟨stem, ext, hsegment, hext⟩ := Text.exists_eq_append_cons_of_mem hdot
    rw [extension, hsegment, Text.splitLast?_append_cons stem hext] at h
    cases stem with
    | nil => cases h
    | cons c stem =>
      refine ⟨c :: stem, ext, List.cons_ne_nil c stem, hext, ?_, hsegment⟩
      exact List.tail_eq_of_cons_eq h
  · rw [extension, Text.splitLast?_of_notMem hdot] at h
    cases h

/-- **The file name behind an extension.** Where a specifier has an extension,
the path that it is has a file name that ends in it. -/
theorem exists_fileName?_of_extension {p : Path} {e : Text} (h : extension p = '.' :: e)
    (he : e ≠ []) :
    ∃ stem ext, stem ≠ [] ∧ '/' ∉ stem ∧ '.' ∉ ext ∧ Text.lowerAscii ext = e
      ∧ Path.fileName? p = some (stem ++ '.' :: ext) := by
  obtain ⟨stem, ext, hstem, hext, hlower, hsegment⟩ := exists_lastSegment_of_extension h
  obtain ⟨front, hlast⟩ := exists_lastPiece_eq p
  rw [hsegment, ← List.append_assoc] at hlast
  have hslash : '/' ∉ front ++ stem ++ '.' :: ext := hlast ▸ Text.notMem_lastPiece '/' p
  have hlong : 3 ≤ (front ++ stem ++ '.' :: ext).length := by
    have hne : ext ≠ [] := by
      rintro rfl
      exact he hlower.symm
    have hstem := List.length_pos_iff.mpr hstem
    have hext := List.length_pos_iff.mpr hne
    rw [List.length_append, List.length_append, List.length_cons]
    omega
  have hstep : Path.IsStep (front ++ stem ++ '.' :: ext) := by
    refine ⟨Path.isIdle_eq_false_iff.mpr ⟨fun hnil => ?_, fun hdot => ?_⟩, hslash⟩
    · rw [hnil] at hlong
      exact absurd hlong (by decide)
    · rw [hdot] at hlong
      exact absurd hlong (by decide)
  refine ⟨front ++ stem, ext, List.append_ne_nil_of_right_ne_nil front hstem,
    fun hmem => hslash (List.mem_append_left _ hmem), hext, hlower,
    Path.fileName?_of_lastPiece hlast hstep fun habove => ?_⟩
  rw [habove] at hlong
  exact absurd hlong (by decide)

end ModuleHooks.Specifier
