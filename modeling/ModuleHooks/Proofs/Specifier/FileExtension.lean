import ModuleHooks.Proofs.Specifier.Extension
import ModuleHooks.Stylesheet.Scope
/-!
# One extension for a specifier and for a file

What becomes of a stylesheet is decided in four places by four readings of its name. Imports are
sorted by the last segment of the specifier, from the last dot on, and by the same text a file is
taken for one to be translated. The source of a missing file is looked for by the extension of the
*file name*, which has no dot and knows nothing of backslashes. A stylesheet is scoped if its file
name *ends* in one of two texts, whatever stands in front of them.

On a path that ends in the name of a file, without a backslash, they agree: the extension of the
specifier is that of the file name in lower case, with its dot (`extension_eq`), and the ending of
a scoped stylesheet is the ending of a stylesheet (`classify_of_scoped`). None of them depends on
what stands in front of the name, and none on the case of a letter (`extension_lowerAscii`).
-/

namespace ModuleHooks.Specifier

open ExtensionClass (stylesheetExtensions)

variable {p stem ending : Text}

/-! ## Stylesheets, by their last segment -/

theorem classify_eq_stylesheet_iff_mem :
    classify p = .stylesheet ↔ extension p ∈ stylesheetExtensions := by
  rw [classify, ExtensionClass.ofExtension]
  split_ifs with hsheet hasset
  · exact iff_of_true rfl (List.contains_iff_mem.mp hsheet)
  · exact iff_of_false (by decide) (mt List.contains_iff_mem.mpr hsheet)
  · exact iff_of_false (by decide) (mt List.contains_iff_mem.mpr hsheet)

/-- The ending of a stylesheet begins with its only dot. -/
theorem exists_dot_of_ending (h : Text.lowerAscii ending ∈ stylesheetExtensions) :
    ∃ ext, ending = '.' :: ext ∧ '.' ∉ ext := by
  have hdot : ∀ e : Text, '.' ∉ e → Text.lowerAscii ending = '.' :: e →
      ∃ ext, ending = '.' :: ext ∧ '.' ∉ ext := by
    intro e he heq
    obtain ⟨c, ext, rfl, hc, rfl⟩ := List.map_eq_cons_iff.mp heq
    obtain rfl := (Text.toLower_eq_iff (by decide)).mp hc
    exact ⟨ext, rfl, fun hmem => he (List.mem_map_of_mem (f := Char.toLower) hmem)⟩
  rcases List.mem_cons.mp h with h | h
  · exact hdot "css".toList (by decide) h
  · exact hdot "scss".toList (by decide) (List.mem_singleton.mp h)

/-- **The class of a stylesheet, by its last segment**: an ending in any case, and something in
front of it. -/
theorem classify_eq_stylesheet_iff :
    classify p = .stylesheet ↔
      ∃ stem ending, stem ≠ [] ∧ lastSegment p = stem ++ ending
        ∧ Text.lowerAscii ending ∈ stylesheetExtensions := by
  rw [classify_eq_stylesheet_iff_mem]
  constructor
  · intro hmem
    obtain ⟨e, he⟩ : ∃ e, extension p = '.' :: e := by
      rcases List.mem_cons.mp hmem with h | h
      · exact ⟨_, h⟩
      · exact ⟨_, List.mem_singleton.mp h⟩
    obtain ⟨stem, ext, hstem, -, rfl, hsegment⟩ := exists_lastSegment_of_extension he
    rw [he] at hmem
    exact ⟨stem, '.' :: ext, hstem, hsegment, hmem⟩
  · rintro ⟨stem, ending, hstem, hsegment, hmem⟩
    obtain ⟨ext, rfl, hext⟩ := exists_dot_of_ending hmem
    obtain ⟨c, stem, rfl⟩ := List.exists_cons_of_ne_nil hstem
    rw [extension, hsegment, Text.splitLast?_append_cons _ hext]
    exact hmem

/-! ## Case -/

theorem isSlash_toLower (c : Char) : isSlash c.toLower = isSlash c := by
  have hletter : ('/' : Char).isAlpha = false ∧ ('\\' : Char).isAlpha = false := by decide
  rw [Bool.eq_iff_iff, isSlash, isSlash]
  simp only [Bool.or_eq_true, beq_iff_eq, Text.toLower_eq_iff hletter.1,
    Text.toLower_eq_iff hletter.2]

theorem lastSegment_lowerAscii (p : Text) :
    lastSegment (Text.lowerAscii p) = Text.lowerAscii (lastSegment p) := by
  rw [lastSegment, Text.splitBy_lowerAscii isSlash_toLower, List.getLast?_map, lastSegment]
  cases (Text.splitBy isSlash p).getLast? <;> rfl

/-- **The case of a letter does not matter.** -/
theorem extension_lowerAscii (p : Text) : extension (Text.lowerAscii p) = extension p := by
  rw [extension, lastSegment_lowerAscii, Text.splitLast?_lowerAscii (by decide), extension]
  cases Text.splitLast? '.' (lastSegment p) with
  | none => rfl
  | some parts =>
    obtain ⟨stem, ext⟩ := parts
    cases stem with
    | nil => rfl
    | cons c stem => exact congrArg (List.cons '.') (Text.lowerAscii_lowerAscii ext)

/-! ## The name of a file -/

section FileName

variable {name : Text} (hlast : Text.lastPiece (· == '/') p = name) (hne : name ≠ [])
  (hback : '\\' ∉ name) (hhere : name ≠ ['.']) (habove : name ≠ ['.', '.'])

include hlast

include hback in
/-- Without a backslash, the last segment is the file name. -/
theorem lastSegment_of_lastPiece : lastSegment p = name := by
  rw [← lastSegment_lastPiece, hlast]
  refine Text.lastPiece_of_forall fun c hc => ?_
  rw [isSlash, Bool.or_eq_false_iff, beq_eq_false_iff_ne, beq_eq_false_iff_ne]
  constructor
  · rintro rfl
    exact Text.notMem_lastPiece '/' p (hlast ▸ hc)
  · rintro rfl
    exact hback hc

include hne hhere habove

theorem fileName?_of_lastPiece : Path.fileName? p = some name :=
  Path.fileName?_of_lastPiece hlast
    ⟨Path.isIdle_eq_false_iff.mpr ⟨hne, hhere⟩, hlast ▸ Text.notMem_lastPiece '/' p⟩ habove

include hback

/-- **The extension of a specifier is that of the file name**, in lower case and with its dot. -/
theorem extension_eq :
    extension p = ((Path.extension? p).map fun e => '.' :: Text.lowerAscii e).getD [] := by
  rw [extension, lastSegment_of_lastPiece hlast hback, Path.extension?,
    fileName?_of_lastPiece hlast hne hhere habove, Option.bind_some, Path.partName]
  -- Both part the name at its last dot, unless it begins there.
  cases Text.splitLast? '.' name with
  | none => rfl
  | some parts =>
    obtain ⟨stem, ext⟩ := parts
    cases stem <;> rfl

/-- An extension that is not empty is found by both or by none. -/
theorem extension_eq_cons_iff {e : Text} (he : e ≠ []) :
    extension p = '.' :: e ↔ Text.lowerAscii ((Path.extension? p).getD []) = e := by
  rw [extension_eq hlast hne hback hhere habove]
  cases Path.extension? p with
  | none => exact iff_of_false (List.cons_ne_nil _ _).symm he.symm
  | some ext => exact List.cons_inj_right '.'

/-- **A scoped stylesheet is a stylesheet.** -/
theorem classify_of_scoped (h : Scope.ofPath p = .scoped) : classify p = .stylesheet := by
  have hending : ∀ suffix ∈ Scope.moduleSuffixes,
      ∃ ending ∈ stylesheetExtensions, suffix = ".module".toList ++ ending := by decide
  rw [Scope.ofPath, fileName?_of_lastPiece hlast hne hhere habove] at h
  dsimp only [Option.getD_some] at h
  split_ifs at h with hany
  obtain ⟨suffix, hsuffix, hends⟩ := List.any_eq_true.mp hany
  obtain ⟨front, hfront⟩ := List.isSuffixOf_iff_suffix.mp hends
  obtain ⟨ending, hmem, rfl⟩ := hending suffix hsuffix
  rw [← List.append_assoc] at hfront
  obtain ⟨stem, last, hname, hstem, hlower⟩ := List.map_eq_append_iff.mp hfront.symm
  refine classify_eq_stylesheet_iff.mpr ⟨stem, last, ?_, ?_, ?_⟩
  · rintro rfl
    exact absurd hstem.symm (List.append_ne_nil_of_right_ne_nil front (by decide))
  · rw [lastSegment_of_lastPiece hlast hback, hname]
  · rw [Text.lowerAscii, hlower]
    exact hmem

end FileName

/-- **The notions of extension agree** on a path that ends in the name of a file, without a
backslash.

* An import of it is a stylesheet, or one to be translated, exactly if the extension of the file
  name says so, in any case.
* If the file name makes the stylesheet scoped, it is a stylesheet to begin with.
* The extension depends neither on the directories in front of the path nor on the case of its
  letters. -/
theorem extension_agrees {p name : Text} (hlast : Text.lastPiece (· == '/') p = name)
    (hne : name ≠ []) (hback : '\\' ∉ name) (hhere : name ≠ ['.']) (habove : name ≠ ['.', '.']) :
    (classify p = .stylesheet ↔
        Text.lowerAscii ((Path.extension? p).getD []) = "css".toList
          ∨ Text.lowerAscii ((Path.extension? p).getD []) = "scss".toList)
      ∧ (extension p = ".scss".toList ↔
        Text.lowerAscii ((Path.extension? p).getD []) = "scss".toList)
      ∧ (Scope.ofPath p = .scoped → classify p = .stylesheet)
      ∧ (∀ dir : Text, extension (dir ++ '/' :: p) = extension p)
      ∧ ∀ q : Text, Text.lowerAscii q = Text.lowerAscii p → extension q = extension p := by
  have hext : ∀ e : Text, e ≠ [] →
      (extension p = '.' :: e ↔ Text.lowerAscii ((Path.extension? p).getD []) = e) :=
    fun _ => extension_eq_cons_iff hlast hne hback hhere habove
  have hcss : extension p = ".css".toList ↔ _ := hext "css".toList (by decide)
  have hscss : extension p = ".scss".toList ↔ _ := hext "scss".toList (by decide)
  refine ⟨?_, hscss, classify_of_scoped hlast hne hback hhere habove,
    fun dir => extension_append_cons rfl dir p, fun q hq => ?_⟩
  · rw [classify_eq_stylesheet_iff_mem, ← hcss, ← hscss]
    exact List.mem_cons.trans (or_congr_right List.mem_singleton)
  · rw [← extension_lowerAscii q, hq, extension_lowerAscii]

/-- A file with several dots and with capitals, in a directory with a backslash in its name. -/
theorem extension_agrees_shouted :
    classify "lib\\ui/.Card..Module.SCSS".toList = .stylesheet
      ∧ extension "lib\\ui/.Card..Module.SCSS".toList = ".scss".toList
      ∧ extension "dist/lib\\ui/.Card..Module.SCSS".toList = ".scss".toList
      ∧ extension "lib\\ui/.card..module.scss".toList = ".scss".toList := by
  have hlast : Text.lastPiece (· == '/') "lib\\ui/.Card..Module.SCSS".toList
      = ".Card..Module.SCSS".toList := by decide
  obtain ⟨-, hscss, hscoped, hdir, hcase⟩ :=
    extension_agrees hlast (by decide) (by decide) (by decide) (by decide)
  have hextension := hscss.mpr (by decide)
  exact ⟨hscoped (by decide), hextension, (hdir "dist".toList).trans hextension,
    (hcase _ (by decide)).trans hextension⟩

end ModuleHooks.Specifier
