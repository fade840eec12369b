import ModuleHooks.Proofs.Text.Pieces
import ModuleHooks.Url.Parse
/-!
# What a reference is made of

A text is an absolute URL if it begins with a scheme, and a reference to
something else if not. A scheme ends in a colon and holds no slash, so a text
in which every colon stands behind a slash can only be a reference. Package
specifiers and relative specifiers are texts of this kind, which is why the
host never mistakes one of them for a URL.
-/

namespace ModuleHooks.Url

/-! ## Schemes -/

/-- **Every colon stands behind a slash**, so that none of them ends a scheme. -/
def ColonsBehindSlash (t : Text) : Prop :=
  ∀ before after, t = before ++ ':' :: after → '/' ∈ before

theorem colonsBehindSlash_of_not_mem {t : Text} (h : ':' ∉ t) : ColonsBehindSlash t := by
  intro before after heq
  rw [heq] at h
  exact absurd (List.mem_append_right before List.mem_cons_self) h

/-- A text begins without a scheme when its colons stand behind a slash. -/
theorem splitScheme?_of_colonsBehindSlash {t : Text} (h : ColonsBehindSlash t) :
    splitScheme? t = none := by
  unfold splitScheme?
  split
  · next c r =>
    split_ifs
    · split
      · next rest hrest =>
        have hsplit := List.takeWhile_append_dropWhile (p := isSchemeChar) (l := c :: r)
        rw [hrest] at hsplit
        have hslash := List.mem_takeWhile_imp (h _ _ hsplit.symm)
        exact absurd hslash (by decide)
      · rfl
    · rfl
  · rfl

/-- A text that begins with a dot or a slash is read from there, and has no scheme. -/
theorem splitScheme?_clean_cons {c : Char} (r : Text) (hc : c = '.' ∨ c = '/') :
    splitScheme? (clean (c :: r)) = none := by
  have hblank : decide (c.toNat ≤ 32) = false := by rcases hc with rfl | rfl <;> decide
  have hkept : (c != '\t' && c != '\n' && c != '\r') = true := by rcases hc with rfl | rfl <;> decide
  have halpha : c.isAlpha = false := by rcases hc with rfl | rfl <;> decide
  have hstart : Text.trimStart (·.toNat ≤ 32) (c :: r) = c :: r :=
    List.dropWhile_cons_of_neg (by rw [hblank]; exact Bool.false_ne_true)
  obtain ⟨post, hsplit, hpost, -⟩ := Text.exists_eq_trimEnd_append (·.toNat ≤ 32) (c :: r)
  rw [clean, Text.trim, hstart]
  cases hend : Text.trimEnd (·.toNat ≤ 32) (c :: r) with
  | nil =>
    rw [hend, List.nil_append] at hsplit
    have hfirst := hpost c (hsplit ▸ List.mem_cons_self)
    rw [hblank] at hfirst
    cases hfirst
  | cons d s =>
    rw [hend, List.cons_append] at hsplit
    obtain ⟨rfl, -⟩ := List.cons_eq_cons.mp hsplit
    rw [List.filter_cons_of_pos (by exact hkept), splitScheme?, halpha, if_neg Bool.false_ne_true]

/-- Cleaning takes no slash away and moves no colon. -/
theorem ColonsBehindSlash.clean {t : Text} (h : ColonsBehindSlash t) :
    ColonsBehindSlash (clean t) := by
  -- Each of the three steps takes away characters none of which is a slash.
  have hstart : ∀ {t : Text}, ColonsBehindSlash t →
      ColonsBehindSlash (Text.trimStart (·.toNat ≤ 32) t) := by
    intro t h before after heq
    have hsplit := List.takeWhile_append_dropWhile
      (p := fun c : Char => decide (c.toNat ≤ 32)) (l := t)
    rw [← Text.trimStart, heq, ← List.append_assoc] at hsplit
    refine (List.mem_append.mp (h _ _ hsplit.symm)).resolve_left (fun hmem => ?_)
    exact absurd (List.mem_takeWhile_imp hmem) (by decide)
  have hend : ∀ {t : Text}, ColonsBehindSlash t →
      ColonsBehindSlash (Text.trimEnd (·.toNat ≤ 32) t) := by
    intro t h before after heq
    obtain ⟨post, hsplit, -⟩ := Text.exists_eq_trimEnd_append (·.toNat ≤ 32) t
    rw [heq, List.append_assoc, List.cons_append] at hsplit
    exact h _ _ hsplit
  intro before after heq
  rw [Url.clean, List.filter_eq_append_iff] at heq
  obtain ⟨front, rest, hsplit, hfront, hrest⟩ := heq
  obtain ⟨skipped, after', hskip, hnone, -, -⟩ := List.filter_eq_cons_iff.mp hrest
  rw [hskip, ← List.append_assoc] at hsplit
  have hmem := hend (hstart h) _ _ hsplit
  rw [← hfront]
  rcases List.mem_append.mp hmem with hmem | hmem
  · exact List.mem_filter.mpr ⟨hmem, by decide⟩
  · exact absurd (by decide) (hnone _ hmem)

/-- A text whose colons stand behind slashes is no URL by itself. -/
theorem parse_of_colonsBehindSlash {t : Text} (h : ColonsBehindSlash t) :
    parse t = .error .relativeWithoutBase := by
  rw [parse, read, splitScheme?_of_colonsBehindSlash h.clean]
  rfl

end ModuleHooks.Url
