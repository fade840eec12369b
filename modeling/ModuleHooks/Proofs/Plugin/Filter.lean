import ModuleHooks.Plugin
import ModuleHooks.Proofs.Specifier.FileExtension
/-!
# Two ways to take a stylesheet

Hosts with hooks hand over specifiers, and a specifier is a stylesheet by its extension: by what
follows the last dot of its last segment, in any case, if something stands in front of the dot.
Hosts with a filter hand over the paths that *end* in one of the two extensions, as they are
written. Seen from the last segment both ask for an ending (`classify_eq_stylesheet_iff`,
`takes_eq_true_iff`), and they part at two places only. The filter takes files that are called
`.css` or `.scss` and nothing else, which to the hooks are hidden files without an extension. The
hooks take extensions with capitals, which the filter does not know.

On all other paths the two agree (`takes_iff_stylesheet`).
-/

namespace ModuleHooks

open ExtensionClass (stylesheetExtensions)

variable {p stem ending : Text}

namespace Plugin

open Specifier (classify lastSegment classify_eq_stylesheet_iff exists_dot_of_ending)

/-- An extension of stylesheets is in lower case. -/
theorem lowerAscii_mem (h : ending ∈ stylesheetExtensions) :
    Text.lowerAscii ending ∈ stylesheetExtensions := by
  have hall : ∀ e ∈ stylesheetExtensions, Text.lowerAscii e ∈ stylesheetExtensions := by decide
  exact hall ending h

/-- **What the filter takes, by the last segment**: an ending as it is written. -/
theorem takes_eq_true_iff :
    takes p = true ↔ ∃ stem, ∃ ending ∈ stylesheetExtensions, lastSegment p = stem ++ ending := by
  have hslash : ∀ e ∈ stylesheetExtensions, ∀ c ∈ e, Specifier.isSlash c = false := by
    simp [stylesheetExtensions, Specifier.isSlash]
  show stylesheetExtensions.any (Text.endsWith p) = true ↔ _
  rw [List.any_eq_true]
  constructor
  · rintro ⟨ending, hending, hends⟩
    obtain ⟨front, rfl⟩ := List.isSuffixOf_iff_suffix.mp hends
    exact ⟨lastSegment front, ending, hending, Text.lastPiece_append (hslash ending hending) front⟩
  · rintro ⟨stem, ending, hending, hsegment⟩
    refine ⟨ending, hending, List.isSuffixOf_iff_suffix.mpr ?_⟩
    have hlast : lastSegment p <:+ p := by
      rcases Text.eq_lastPiece_or Specifier.isSlash p with h | ⟨s, c, -, h⟩
      · exact ⟨[], h.symm⟩
      · exact ⟨s ++ [c], by rw [List.append_assoc]; exact h.symm⟩
    exact (List.suffix_append stem ending).trans (hsegment ▸ hlast)

/-- **A stylesheet whose extension is not written in lower case.** -/
def IsShouted (p : Text) : Prop :=
  ∃ stem ending, stem ≠ [] ∧ lastSegment p = stem ++ ending
    ∧ Text.lowerAscii ending ∈ stylesheetExtensions ∧ ending ∉ stylesheetExtensions

/-- **What the filter takes and the hooks do not**: a file with the name of an extension. -/
theorem takes_and_not_stylesheet_iff :
    takes p = true ∧ classify p ≠ .stylesheet ↔ lastSegment p ∈ stylesheetExtensions := by
  constructor
  · rintro ⟨htakes, hclass⟩
    obtain ⟨stem, ending, hending, hsegment⟩ := takes_eq_true_iff.mp htakes
    by_cases hstem : stem = []
    · rw [hsegment, hstem]
      exact hending
    · exact absurd (classify_eq_stylesheet_iff.mpr
        ⟨stem, ending, hstem, hsegment, lowerAscii_mem hending⟩) hclass
  · intro hmem
    refine ⟨takes_eq_true_iff.mpr ⟨[], _, hmem, rfl⟩, fun hclass => ?_⟩
    obtain ⟨stem, ending, hstem, hsegment, hending⟩ := classify_eq_stylesheet_iff.mp hclass
    obtain ⟨ext, rfl, -⟩ := exists_dot_of_ending hending
    obtain ⟨e, he, hdot⟩ := exists_dot_of_ending (lowerAscii_mem hmem)
    -- The only dot of the segment stands in front, and there is something before it.
    obtain ⟨c, stem, rfl⟩ := List.exists_cons_of_ne_nil hstem
    rw [he, List.cons_append] at hsegment
    exact hdot
      (List.tail_eq_of_cons_eq hsegment ▸ List.mem_append_right stem List.mem_cons_self)

/-- **What the hooks take and the filter does not**: an extension with capitals. -/
theorem stylesheet_and_not_takes_iff :
    classify p = .stylesheet ∧ takes p = false ↔ IsShouted p := by
  constructor
  · rintro ⟨hclass, htakes⟩
    obtain ⟨stem, ending, hstem, hsegment, hending⟩ := classify_eq_stylesheet_iff.mp hclass
    refine ⟨stem, ending, hstem, hsegment, hending, fun hmem => ?_⟩
    rw [takes_eq_true_iff.mpr ⟨stem, ending, hmem, hsegment⟩] at htakes
    cases htakes
  · rintro ⟨stem, ending, hstem, hsegment, hending, hnot⟩
    refine ⟨classify_eq_stylesheet_iff.mpr ⟨stem, ending, hstem, hsegment, hending⟩,
      Bool.eq_false_of_not_eq_true fun htakes => ?_⟩
    obtain ⟨stem', ending', hmem, hsegment'⟩ := takes_eq_true_iff.mp htakes
    obtain ⟨ext, rfl, hext⟩ := exists_dot_of_ending hending
    obtain ⟨ext', rfl, hext'⟩ := exists_dot_of_ending (lowerAscii_mem hmem)
    -- Both endings begin with the last dot of the segment.
    have hcut := Text.splitLast?_append_cons stem hext
    rw [← hsegment, hsegment', Text.splitLast?_append_cons stem' hext'] at hcut
    cases hcut
    exact hnot hmem

/-- **The filter and the hooks take the same stylesheets**, if the file has not the name of an
extension and the extension is not written with capitals; and if they take the same ones, neither
is the case. -/
theorem takes_iff_stylesheet (p : Text) :
    (takes p = true ↔ classify p = .stylesheet) ↔
      lastSegment p ∉ stylesheetExtensions ∧ ¬ IsShouted p := by
  rw [← takes_and_not_stylesheet_iff, ← stylesheet_and_not_takes_iff]
  cases takes p <;> simp

/-- **A file `.css` and a file `a.CSS`** are each taken by one of the two only. -/
theorem not_forall_takes :
    takes "/app/.css".toList = true ∧ classify "/app/.css".toList ≠ .stylesheet
      ∧ takes "/app/a.CSS".toList = false ∧ classify "/app/a.CSS".toList = .stylesheet
      ∧ ¬ ∀ p : Text, takes p = true ↔ classify p = .stylesheet := by
  have hshouted : takes "/app/a.CSS".toList = false := by decide
  have hclass : classify "/app/a.CSS".toList = .stylesheet := by decide
  refine ⟨by decide, by decide, hshouted, hclass, fun h => ?_⟩
  rw [(h _).mpr hclass] at hshouted
  cases hshouted

end Plugin

end ModuleHooks
