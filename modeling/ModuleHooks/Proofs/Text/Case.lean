import ModuleHooks.Proofs.Text.Pieces
import ModuleHooks.Text.Case
/-!
# The characters that a case mapping leads to

Beyond ASCII the case mappings are tables, and what is to hold of every character has to be read
off them. A mapping expands a character, shifts it along with its run, or leaves it alone
(`mapCase_cases`). The expansions are few. The runs are compared with each other as a whole, and
not character by character: what a run is shifted to lies in front of another run, behind it, or
between its steps (`isApart`), and then none of it is mapped any further
(`not_covers_of_leadsPast`).

Two facts about single characters come of this: neither mapping yields a hyphen or an underscore
that was not there (`notMem_lowerChar`, `notMem_upperChar`), and the first character of a
lower-case form is its own lower-case form (`exists_lowerChar_eq`).
-/

namespace ModuleHooks.Text

open CaseTable

/-! ## Runs of a table -/

/-- A run of a case table: the first code point, the last one, the step, and the shift. -/
abbrev CaseRun := Nat × Nat × Nat × Int

/-- The code points of a run. -/
def Covers (r : CaseRun) (n : Nat) : Prop := r.1 ≤ n ∧ n ≤ r.2.1 ∧ (n - r.1) % r.2.2.1 = 0

/-- The run of one code point. -/
def point (n : Nat) : CaseRun := (n, n, 1, 0)

/-- Where the first code point of a run is shifted to. -/
def image (r : CaseRun) : Nat := (r.1 + r.2.2.2).toNat

/-- **Whether a run is shifted past another one**: in front of it, behind it, or between its
steps. -/
def isApart (r s : CaseRun) : Bool :=
  s.2.1.blt (image r) || (image r + (r.2.1 - r.1)).blt s.1
    || (r.1 == r.2.1 || r.2.2.1 % s.2.2.1 == 0) && image r % s.2.2.1 != s.1 % s.2.2.1

/-- Whether all runs of a table are shifted past some other runs. -/
def leadsPast (runs others : List CaseRun) : Bool :=
  runs.all fun r => decide (0 ≤ r.1 + r.2.2.2) && others.all (isApart r)

/-- Whether a table does not lead to a character: neither by a shift, nor by an expansion, nor as
to the null character, which stands for what is no code point. -/
def avoids (runs : List CaseRun) (expansions : List (Nat × List Nat)) (d : Char) : Bool :=
  d != '\x00' && leadsPast runs [point d.toNat] && expansions.all fun e => !e.2.contains d.toNat

variable {runs others : List CaseRun} {expansions : List (Nat × List Nat)} {c d : Char}

theorem covers_point (n : Nat) : Covers (point n) n :=
  ⟨le_rfl, le_rfl, Nat.mod_one _⟩

/-- **No code point of a run is shifted into one that the run is shifted past.** -/
theorem not_covers_of_leadsPast (h : leadsPast runs others = true) {r s : CaseRun} (hr : r ∈ runs)
    (hs : s ∈ others) {n : Nat} (hn : Covers r n) : ¬Covers s (n + r.2.2.2).toNat := by
  have hboth := List.all_eq_true.mp h r hr
  rw [Bool.and_eq_true, decide_eq_true_eq] at hboth
  obtain ⟨hpositive, hothers⟩ := hboth
  have hapart := List.all_eq_true.mp hothers s hs
  obtain ⟨hfirst, hlast, hstep⟩ := hn
  have htarget : (n + r.2.2.2).toNat = image r + (n - r.1) := by
    rw [image]
    omega
  rw [htarget]
  rintro ⟨hfirst', hlast', hstep'⟩
  simp only [isApart, Bool.or_eq_true, Bool.and_eq_true, Nat.blt_eq, beq_iff_eq,
    bne_iff_ne] at hapart
  rcases hapart with (hfront | hbehind) | ⟨hsteps, hbetween⟩
  · omega
  · omega
  · -- Steps of the one run are steps of the other, so the first ones would have to meet.
    have hmultiple : s.2.2.1 ∣ n - r.1 := by
      rcases hsteps with hone | hdvd
      · rw [Nat.sub_eq_zero_of_le (by omega)]
        exact dvd_zero _
      · exact (Nat.dvd_of_mod_eq_zero hdvd).trans (Nat.dvd_of_mod_eq_zero hstep)
    refine hbetween ?_
    have hmeet : s.1 ≡ image r + (n - r.1) [MOD s.2.2.1] :=
      (Nat.modEq_iff_dvd' hfirst').mpr (Nat.dvd_of_mod_eq_zero hstep')
    exact (hmeet.trans ((Nat.modEq_zero_iff_dvd.mpr hmultiple).add_left (image r))).symm

/-! ## What a table does to a character -/

/-- A number that is no code point makes the null character. -/
theorem toNat_ofNat_or (n : Nat) : (Char.ofNat n).toNat = n ∨ Char.ofNat n = '\x00' := by
  by_cases hvalid : n.isValidChar
  · exact Or.inl (by rw [Char.toNat_ofNat, if_pos hvalid])
  · refine Or.inr (Char.toNat_inj.mp ?_)
    rw [Char.toNat_ofNat, if_neg hvalid]
    rfl

theorem exists_of_shift?_eq_some {n : Nat} {shift : Int} (h : shift? runs n = some shift) :
    ∃ r ∈ runs, Covers r n ∧ r.2.2.2 = shift := by
  obtain ⟨r, hfind, hshift⟩ := Option.map_eq_some_iff.mp h
  have hcovers := List.find?_some hfind
  simp only [Bool.and_eq_true, decide_eq_true_eq, beq_iff_eq] at hcovers
  exact ⟨r, List.mem_of_find?_eq_some hfind, ⟨hcovers.1.1, hcovers.1.2, hcovers.2⟩, hshift⟩

/-- **A mapping** expands a character, shifts it with its run, or leaves it alone. -/
theorem mapCase_cases (runs : List CaseRun) (expansions : List (Nat × List Nat)) (c : Char) :
    (∃ e ∈ expansions, mapCase runs expansions c = e.2.map Char.ofNat)
      ∨ (∃ r ∈ runs, Covers r c.toNat
        ∧ mapCase runs expansions c = [Char.ofNat (c.toNat + r.2.2.2).toNat])
      ∨ mapCase runs expansions c = [c] := by
  unfold mapCase
  cases hexpansion : expansions.find? (·.1 == c.toNat) with
  | some e => exact Or.inl ⟨e, List.mem_of_find?_eq_some hexpansion, rfl⟩
  | none =>
    cases hshift : shift? runs c.toNat with
    | some shift =>
      obtain ⟨r, hr, hcovers, rfl⟩ := exists_of_shift?_eq_some hshift
      exact Or.inr (Or.inl ⟨r, hr, hcovers, rfl⟩)
    | none => exact Or.inr (Or.inr rfl)

/-- What the table does not mention is left alone. -/
theorem mapCase_eq_self (hexpansions : ∀ e ∈ expansions, e.1 ≠ c.toNat)
    (hruns : ∀ r ∈ runs, ¬Covers r c.toNat) : mapCase runs expansions c = [c] := by
  have hexpansion : expansions.find? (·.1 == c.toNat) = none :=
    List.find?_eq_none.mpr fun e he => by simpa using hexpansions e he
  have hshift : shift? runs c.toNat = none := by
    cases h : shift? runs c.toNat with
    | none => rfl
    | some shift =>
      obtain ⟨r, hr, hcovers, -⟩ := exists_of_shift?_eq_some h
      exact absurd hcovers (hruns r hr)
  rw [mapCase, hexpansion]
  dsimp only
  rw [hshift]

/-- **A character that the table does not lead to** comes of itself only. -/
theorem notMem_mapCase (h : avoids runs expansions d = true) (hne : d ≠ c) :
    d ∉ mapCase runs expansions c := by
  rw [avoids, Bool.and_eq_true, Bool.and_eq_true, bne_iff_ne, List.all_eq_true] at h
  obtain ⟨⟨hnull, hruns⟩, hexpansions⟩ := h
  have hcode : ∀ n, d = Char.ofNat n → d.toNat = n := by
    rintro n rfl
    exact (toNat_ofNat_or n).resolve_right hnull
  rcases mapCase_cases runs expansions c with ⟨e, he, h⟩ | ⟨r, hr, hcovers, h⟩ | h
  · rw [h, List.mem_map]
    rintro ⟨n, hn, hd⟩
    rw [← hcode n hd.symm] at hn
    have hother := hexpansions e he
    rw [List.contains_iff_mem.mpr hn] at hother
    cases hother
  · rw [h, List.mem_singleton]
    intro hd
    refine not_covers_of_leadsPast hruns hr List.mem_cons_self hcovers ?_
    rw [← hcode _ hd]
    exact covers_point _
  · rw [h, List.mem_singleton]
    exact hne

/-! ## The two case mappings -/

/-- Within ASCII a mapping has a rule of its own, and only that. -/
theorem notMem_ite_mapCase {rule : Char → Char} (hrule : rule c = d → c = d)
    (h : avoids runs expansions d = true) (hne : d ≠ c) :
    d ∉ if c.toNat < 128 then [rule c] else mapCase runs expansions c := by
  split_ifs
  · rw [List.mem_singleton]
    exact fun hd => hne (hrule hd.symm).symm
  · exact notMem_mapCase h hne

/-- **No lower-case form has a hyphen or an underscore**, but their own. -/
theorem notMem_lowerChar (hd : d = '-' ∨ d = '_') (hne : d ≠ c) : d ∉ lowerChar c := by
  have hletter : d.isAlpha = false := by rcases hd with rfl | rfl <;> decide
  have havoids : avoids lowerRuns lowerExpansions d = true := by
    rcases hd with rfl | rfl <;> decide +kernel
  exact notMem_ite_mapCase (toLower_eq_iff hletter).mp havoids hne

/-- **No upper-case form has a hyphen or an underscore**, but their own. -/
theorem notMem_upperChar (hd : d = '-' ∨ d = '_') (hne : d ≠ c) : d ∉ upperChar c := by
  have hletter : d.isAlpha = false := by rcases hd with rfl | rfl <;> decide
  have havoids : avoids upperRuns upperExpansions d = true := by
    rcases hd with rfl | rfl <;> decide +kernel
  exact notMem_ite_mapCase (toUpper_eq_iff hletter).mp havoids hne

/-- A character without a lower-case form of another spelling. -/
theorem lowerChar_eq_self (hexpansions : ∀ e ∈ lowerExpansions, e.1 ≠ c.toNat)
    (hruns : ∀ r ∈ lowerRuns, ¬Covers r c.toNat) : lowerChar c = [c] := by
  unfold lowerChar
  split_ifs
  · -- The capitals of ASCII are the first run of the table.
    have hupper : ¬c.isUpper = true := fun h => by
      rw [Char.isUpper, decide_eq_true_eq] at h
      exact hruns (0x41, 0x5A, 1, 32) List.mem_cons_self
        ⟨UInt32.le_iff_toNat_le.mp h.1, UInt32.le_iff_toNat_le.mp h.2, Nat.mod_one _⟩
    rw [Char.toLower_eq_of_not_isUpper hupper]
  · exact mapCase_eq_self hexpansions hruns

/-- Nothing is mapped to what is mapped again. -/
theorem leadsPast_lowerRuns : leadsPast lowerRuns (point 0x130 :: lowerRuns) = true := by
  decide +kernel

/-- **A lower-case form begins with a character in lower case.** -/
theorem exists_lowerChar_eq (c : Char) : ∃ d r, lowerChar c = d :: r ∧ lowerChar d = [d] := by
  by_cases hascii : c.toNat < 128
  · have hlower := forall_ascii (p := fun c => decide (c.toLower.toNat < 128)) (by decide) hascii
    refine ⟨c.toLower, [], if_pos hascii, ?_⟩
    rw [lowerChar, if_pos (of_decide_eq_true hlower), Char.toLower_toLower_eq_toLower]
  · have hchar : lowerChar c = mapCase lowerRuns lowerExpansions c := if_neg hascii
    rcases mapCase_cases lowerRuns lowerExpansions c with ⟨e, he, h⟩ | ⟨r, hr, hcovers, h⟩ | h
    · obtain rfl := List.mem_singleton.mp he
      exact ⟨'i', ['\u0307'], hchar.trans h, by decide⟩
    · refine ⟨_, [], hchar.trans h, ?_⟩
      rcases toNat_ofNat_or (c.toNat + r.2.2.2).toNat with hcode | hnull
      · have hpast : ∀ s ∈ point 0x130 :: lowerRuns,
            ¬Covers s (Char.ofNat (c.toNat + r.2.2.2).toNat).toNat := fun s hs => by
          rw [hcode]
          exact not_covers_of_leadsPast leadsPast_lowerRuns hr hs hcovers
        refine lowerChar_eq_self (fun e he heq => ?_) fun s hs =>
          hpast s (List.mem_cons_of_mem _ hs)
        obtain rfl := List.mem_singleton.mp he
        exact hpast _ List.mem_cons_self (heq ▸ covers_point _)
      · rw [hnull]
        decide
    · exact ⟨c, [], hchar.trans h, hchar.trans h⟩

end ModuleHooks.Text
