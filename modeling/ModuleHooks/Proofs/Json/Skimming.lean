import Mathlib.Data.List.Forall2
import Mathlib.Order.Nat
import Mathlib.Tactic.SplitIfs
import ModuleHooks.Json.Basic
/-!
# Reading with care and skimming

A value that is read with care can also be skimmed, and both come to the same place in the text
(`value?_follows`). What a document is read for therefore never changes where its members are. The
converse fails: a value may be nested too deeply, hold a number out of range or a literal that is
no text.

Skimming has a bound on the levels as well, but that is the length of the document, and every
level takes a bracket. So the bound on the levels is carried along with one on the length of the
text, and for that every reader has to leave no more than it was given.
-/

namespace ModuleHooks.Json

variable {careful : Bool} {t r : Text}

/-- **A reader that another one follows**, on texts up to a length: whatever is read by the first
is read by the second, maybe as another value, up to the same place. -/
def Follows (n : Nat) (p q : Reader) : Prop :=
  ∀ t v r, t.length ≤ n → p t = some (v, r) → r.length ≤ t.length ∧ ∃ v', q t = some (v', r)

theorem length_skipBlanks_le (t : Text) : (skipBlanks t).length ≤ t.length :=
  (List.dropWhile_suffix isBlank).length_le

/-- A reader that changes only the value leaves over what the other one did. -/
theorem exists_of_map_eq_some {α β : Type} {f : α × Text → β × Text} {o : Option (α × Text)}
    {y : β} (h : o.map f = some (y, r)) (hf : ∀ x, (f x).2 = x.2) : ∃ x, o = some (x, r) := by
  obtain ⟨⟨x, r'⟩, rfl, heq⟩ := Option.map_eq_some_iff.mp h
  have hr := hf (x, r')
  rw [heq] at hr
  obtain rfl : r = r' := hr
  exact ⟨x, rfl⟩

/-! ## Numbers -/

theorem length_of_digits? {ds : Text} (h : digits? t = some (ds, r)) : r.length ≤ t.length := by
  unfold digits? at h
  split at h
  · cases h
  · cases h
    exact (List.dropWhile_suffix Char.isDigit).length_le

theorem length_of_whole? {ds : Text} (h : whole? t = some (ds, r)) : r.length ≤ t.length := by
  unfold whole? at h
  split at h
  · cases h
    exact Nat.le_succ _
  · exact length_of_digits? h

theorem length_of_fraction? {ds : Text} (h : fraction? t = some (ds, r)) :
    r.length ≤ t.length := by
  unfold fraction? at h
  split at h
  · obtain ⟨ds, hds⟩ := exists_of_map_eq_some h fun _ => rfl
    exact (length_of_digits? hds).trans (Nat.le_succ _)
  · cases h
    exact le_rfl

theorem length_of_exponent? {ds : Text} (h : exponent? t = some (ds, r)) :
    r.length ≤ t.length := by
  have hdigits : ∀ {f : Text × Text → Text × Text} {s : Text},
      (digits? s).map f = some (ds, r) → (∀ x, (f x).2 = x.2) → r.length ≤ s.length := by
    intro f s hmap hf
    obtain ⟨ds, hds⟩ := exists_of_map_eq_some hmap hf
    exact length_of_digits? hds
  unfold exponent? at h
  split at h
  · split_ifs at h
    · split at h
      · exact (hdigits h fun _ => rfl).trans (by simp only [List.length_cons]; omega)
      · exact (hdigits h fun _ => rfl).trans (by simp only [List.length_cons]; omega)
      · exact (hdigits h fun _ => rfl).trans (Nat.le_succ _)
    · cases h
      exact le_rfl
  · cases h
    exact le_rfl

/-- Reads a number behind its sign. -/
def unsigned? (careful : Bool) (sign t : Text) : Option (Json × Text) := do
  let (a, r) ← whole? t
  let (b, r) ← fraction? r
  let (c, r) ← exponent? r
  if careful && !isInRange a b c then none
  return (.number (sign ++ a ++ b ++ c), r)

theorem number?_eq (careful : Bool) (t : Text) :
    number? careful t = match t with
      | '-' :: r => unsigned? careful ['-'] r
      | t => unsigned? careful [] t := by
  unfold number?
  split
  next sign s heq =>
    split
    · cases heq
      rfl
    · next hminus =>
      split at heq
      · next r => exact absurd rfl (hminus r)
      · cases heq
        rfl

theorem unsigned?_follows (sign : Text) (n : Nat) :
    Follows n (unsigned? careful sign) (unsigned? false sign) := by
  intro t v r _ h
  obtain ⟨⟨a, r₁⟩, ha, h⟩ := Option.bind_eq_some_iff.mp h
  obtain ⟨⟨b, r₂⟩, hb, h⟩ := Option.bind_eq_some_iff.mp h
  obtain ⟨⟨c, r₃⟩, hc, h⟩ := Option.bind_eq_some_iff.mp h
  obtain rfl : r₃ = r := by
    dsimp only at h
    split_ifs at h
    · cases h
    · exact congrArg Prod.snd (Option.some.inj h)
  refine ⟨?_, .number (sign ++ a ++ b ++ c), ?_⟩
  · exact (length_of_exponent? hc).trans ((length_of_fraction? hb).trans (length_of_whole? ha))
  · exact Option.bind_eq_some_iff.mpr ⟨_, ha, Option.bind_eq_some_iff.mpr ⟨_, hb,
      Option.bind_eq_some_iff.mpr ⟨_, hc, rfl⟩⟩⟩

/-- **A number that is read with care can be skimmed.** -/
theorem number?_follows (n : Nat) : Follows n (number? careful) (number? false) := by
  intro t v r hn h
  rw [number?_eq] at h ⊢
  split at h
  · obtain ⟨hle, hskimmed⟩ := unsigned?_follows ['-'] n _ v r (Nat.le_of_succ_le hn) h
    exact ⟨hle.trans (Nat.le_succ _), hskimmed⟩
  · exact unsigned?_follows [] n _ v r hn h

/-! ## Literals -/

theorem length_of_afterLiteral? (h : afterLiteral? t = some r) : r.length ≤ t.length := by
  fun_induction afterLiteral? t with
  | case1 => cases h
  | case2 s =>
    cases h
    exact Nat.le_succ _
  | case3 a b c d s hhex ih => exact (ih h).trans (by simp only [List.length_cons]; omega)
  | case4 => cases h
  | case5 c s hc hletter ih => exact (ih h).trans (by simp only [List.length_cons]; omega)
  | case6 => cases h
  | case7 => cases h
  | case8 c s hquote hhex hslash hc ih => exact (ih h).trans (Nat.le_succ _)

theorem afterLiteral?_hex {a b c d : Char} {n : Nat} (h : Text.hex4? a b c d = some n)
    (r : Text) : afterLiteral? ('\\' :: 'u' :: a :: b :: c :: d :: r) = afterLiteral? r := by
  rw [afterLiteral?, h]
  rfl

theorem afterLiteral?_letter {c d : Char} (h : Text.unescape? c = some d) (r : Text) :
    afterLiteral? ('\\' :: c :: r) = afterLiteral? r := by
  have hu : c ≠ 'u' := by
    rintro rfl
    cases h
  rw [afterLiteral?, h]
  · rfl
  · exact fun _ _ _ _ _ hc _ => hu hc

/-- **A body that is read can be skimmed.** -/
theorem afterLiteral?_of_unquoteBody? {x : Text} (h : Text.unquoteBody? t = some (x, r)) :
    afterLiteral? t = some r := by
  fun_induction Text.unquoteBody? t generalizing x with
  | case2 s =>
    cases h
    rfl
  | case5 a b c d e f g k s n hn hhigh m hm hlow ih =>
    obtain ⟨y, hy⟩ := exists_of_map_eq_some h fun _ => rfl
    rw [afterLiteral?_hex hn, afterLiteral?_hex hm, ih hy]
  | case8 a b c d e f g k s n hn hhigh hlow ih =>
    obtain ⟨y, hy⟩ := exists_of_map_eq_some h fun _ => rfl
    rw [afterLiteral?_hex hn, ih hy]
  | case11 a b c d s hnone n hn hhalf ih =>
    obtain ⟨y, hy⟩ := exists_of_map_eq_some h fun _ => rfl
    rw [afterLiteral?_hex hn, ih hy]
  | case13 c s hpair hhex d hd ih =>
    obtain ⟨y, hy⟩ := exists_of_map_eq_some h fun _ => rfl
    rw [afterLiteral?_letter hd, ih hy]
  | case15 c s hquote hpair hhex hslash hc ih =>
    obtain ⟨y, hy⟩ := exists_of_map_eq_some h fun _ => rfl
    rw [afterLiteral?, if_neg hc, ih hy]
    · exact hquote
    · exact hhex
    · exact hslash
  | _ => cases h

/-- **A literal that is read with care can be skimmed.** -/
theorem literal?_false {x : Text} (h : literal? careful t = some (x, r)) :
    r.length ≤ t.length ∧ literal? false t = some ([], r) := by
  unfold literal? at h ⊢
  split at h
  · next s =>
    have hafter : afterLiteral? s = some r := by
      cases careful with
      | true => exact afterLiteral?_of_unquoteBody? h
      | false =>
        obtain ⟨r', hr', heq⟩ := Option.map_eq_some_iff.mp h
        cases heq
        exact hr'
    refine ⟨(length_of_afterLiteral? hafter).trans (Nat.le_succ _), ?_⟩
    simp only [Bool.false_eq_true, if_false, hafter, Option.map_some]
  · cases h

/-! ## Values -/

/-- **A simple value that is read with care can be skimmed.** -/
theorem simple?_follows (n : Nat) : Follows n (simple? careful) (simple? false) := by
  intro t v r hn h
  unfold simple? at h ⊢
  split at h
  · cases h
    exact ⟨by simp only [List.length_cons]; omega, _, rfl⟩
  · cases h
    exact ⟨by simp only [List.length_cons]; omega, _, rfl⟩
  · cases h
    exact ⟨by simp only [List.length_cons]; omega, _, rfl⟩
  · obtain ⟨⟨x, r'⟩, hx, heq⟩ := Option.map_eq_some_iff.mp h
    cases heq
    obtain ⟨hle, hskimmed⟩ := literal?_false hx
    exact ⟨hle, .string [], by rw [hskimmed]; rfl⟩
  · exact number?_follows n _ v r hn h

/-- A simple value is no object. -/
theorem simple?_ne_object (ms : List (Text × Json)) (r : Text) :
    simple? careful t ≠ some (.object ms, r) := by
  have hunsigned : ∀ sign t : Text, unsigned? careful sign t ≠ some (.object ms, r) := by
    intro sign t h
    obtain ⟨⟨a, r₁⟩, -, h⟩ := Option.bind_eq_some_iff.mp h
    obtain ⟨⟨b, r₂⟩, -, h⟩ := Option.bind_eq_some_iff.mp h
    obtain ⟨⟨c, r₃⟩, -, h⟩ := Option.bind_eq_some_iff.mp h
    dsimp only at h
    split_ifs at h
    · cases h
    · cases h
  intro h
  unfold simple? at h
  split at h
  · cases h
  · cases h
  · cases h
  · obtain ⟨x, -, heq⟩ := Option.map_eq_some_iff.mp h
    cases heq
  · rw [number?_eq] at h
    split at h
    · exact hunsigned _ _ h
    · exact hunsigned _ _ h

theorem items?_succ_iff {value : Reader} {k : Nat} {vs : List Json} :
    items? value (k + 1) t = some (vs, r) ↔ ∃ v s, value t = some (v, s)
      ∧ ((∃ s' vs', skipBlanks s = ',' :: s' ∧ items? value k s' = some (vs', r) ∧ vs = v :: vs')
        ∨ (skipBlanks s = ']' :: r ∧ vs = [v])) := by
  rw [items?]
  constructor
  · intro h
    obtain ⟨⟨v, s⟩, hv, h⟩ := Option.bind_eq_some_iff.mp h
    refine ⟨v, s, hv, ?_⟩
    dsimp only at h
    split at h
    · next s' hs =>
      obtain ⟨⟨vs', r'⟩, hvs, heq⟩ := Option.map_eq_some_iff.mp h
      cases heq
      exact Or.inl ⟨s', vs', hs, hvs, rfl⟩
    · next s' hs =>
      cases h
      exact Or.inr ⟨hs, rfl⟩
    · cases h
  · rintro ⟨v, s, hv, ⟨s', vs', hs, hvs, rfl⟩ | ⟨hs, rfl⟩⟩
    · exact Option.bind_eq_some_iff.mpr ⟨_, hv, by simp only [hs, hvs, Option.map_some]⟩
    · exact Option.bind_eq_some_iff.mpr ⟨_, hv, by simp only [hs]⟩

theorem members?_succ_iff {value : Text → Reader} {k : Nat} {ms : List (Text × Json)} :
    members? careful value (k + 1) t = some (ms, r) ↔ ∃ key s₁ s₂ v s₃,
      literal? careful (skipBlanks t) = some (key, s₁) ∧ skipBlanks s₁ = ':' :: s₂
      ∧ value key s₂ = some (v, s₃)
      ∧ ((∃ s' ms', skipBlanks s₃ = ',' :: s' ∧ members? careful value k s' = some (ms', r)
          ∧ ms = (key, v) :: ms')
        ∨ (skipBlanks s₃ = '\x7d' :: r ∧ ms = [(key, v)])) := by
  rw [members?]
  constructor
  · intro h
    obtain ⟨⟨key, s₁⟩, hkey, h⟩ := Option.bind_eq_some_iff.mp h
    dsimp only at h
    split at h
    · next s₂ hs₂ =>
      obtain ⟨⟨v, s₃⟩, hv, h⟩ := Option.bind_eq_some_iff.mp h
      refine ⟨key, s₁, s₂, v, s₃, hkey, hs₂, hv, ?_⟩
      dsimp only at h
      split at h
      · next s' hs =>
        obtain ⟨⟨ms', r'⟩, hms, heq⟩ := Option.map_eq_some_iff.mp h
        cases heq
        exact Or.inl ⟨s', ms', hs, hms, rfl⟩
      · next s' hs =>
        cases h
        exact Or.inr ⟨hs, rfl⟩
      · cases h
    · cases h
  · rintro ⟨key, s₁, s₂, v, s₃, hkey, hs₂, hv, hrest⟩
    refine Option.bind_eq_some_iff.mpr ⟨_, hkey, ?_⟩
    simp only [hs₂]
    refine Option.bind_eq_some_iff.mpr ⟨_, hv, ?_⟩
    obtain ⟨s', ms', hs, hms, rfl⟩ | ⟨hs, rfl⟩ := hrest
    · simp only [hs, hms, Option.map_some]
    · simp only [hs]

/-- What stands behind a character is shorter than what is left with it. -/
theorem length_of_skipBlanks_eq {c : Char} {s : Text} (h : skipBlanks t = c :: s) :
    s.length < t.length := by
  have hle := length_skipBlanks_le t
  rw [h, List.length_cons] at hle
  exact hle

theorem items?_follows {n k : Nat} {p q : Reader} (h : Follows n p q) {vs : List Json}
    (ht : t.length ≤ n) (hread : items? p k t = some (vs, r)) :
    r.length ≤ t.length ∧ ∃ vs', items? q k t = some (vs', r) := by
  induction k generalizing t vs with
  | zero => cases hread
  | succ k ih =>
    obtain ⟨v, s, hv, hrest⟩ := items?_succ_iff.mp hread
    obtain ⟨hle, v', hv'⟩ := h t v s ht hv
    obtain ⟨s', vs', hs, hvs, -⟩ | ⟨hs, -⟩ := hrest
    · have hlt := length_of_skipBlanks_eq hs
      obtain ⟨hle', vs'', hvs''⟩ := ih (by omega) hvs
      exact ⟨by omega, _, items?_succ_iff.mpr ⟨v', s, hv', Or.inl ⟨s', vs'', hs, hvs'', rfl⟩⟩⟩
    · have hlt := length_of_skipBlanks_eq hs
      exact ⟨by omega, _, items?_succ_iff.mpr ⟨v', s, hv', Or.inr ⟨hs, rfl⟩⟩⟩

theorem members?_follows {n k : Nat} {p q : Reader} (h : Follows n p q)
    {ms : List (Text × Json)} (ht : t.length ≤ n)
    (hread : members? careful (fun _ => p) k t = some (ms, r)) :
    r.length ≤ t.length ∧ ∃ ms', members? false (fun _ => q) k t = some (ms', r) := by
  induction k generalizing t ms with
  | zero => cases hread
  | succ k ih =>
    obtain ⟨key, s₁, s₂, v, s₃, hkey, hs₂, hv, hrest⟩ := members?_succ_iff.mp hread
    obtain ⟨hle₁, hkey'⟩ := literal?_false hkey
    have hblank := length_skipBlanks_le t
    have hlt₂ := length_of_skipBlanks_eq hs₂
    obtain ⟨hle₃, v', hv'⟩ := h s₂ v s₃ (by omega) hv
    obtain ⟨s', ms', hs, hms, -⟩ | ⟨hs, -⟩ := hrest
    · have hlt := length_of_skipBlanks_eq hs
      obtain ⟨hle', ms'', hms''⟩ := ih (by omega) hms
      exact ⟨by omega, _, members?_succ_iff.mpr
        ⟨[], s₁, s₂, v', s₃, hkey', hs₂, hv', Or.inl ⟨s', ms'', hs, hms'', rfl⟩⟩⟩
    · have hlt := length_of_skipBlanks_eq hs
      exact ⟨by omega, _, members?_succ_iff.mpr
        ⟨[], s₁, s₂, v', s₃, hkey', hs₂, hv', Or.inr ⟨hs, rfl⟩⟩⟩

/-- A simple value does not begin with a bracket. -/
theorem nested?_of_simple? {item : Reader} {member : Text → Reader} {flag : Bool}
    {x : Json × Text} (h : simple? flag (skipBlanks t) = some x) :
    nested? careful item member t = simple? careful (skipBlanks t) := by
  unfold nested?
  split
  · next s hs =>
    have hnone : simple? flag ('\x7b' :: s) = none := rfl
    rw [hs, hnone] at h
    cases h
  · next s hs =>
    have hnone : simple? flag ('[' :: s) = none := rfl
    rw [hs, hnone] at h
    cases h
  · rfl

theorem nested?_follows {n : Nat} {p q : Reader} (h : Follows n p q) :
    Follows (n + 1) (nested? careful p fun _ => p) (nested? false q fun _ => q) := by
  intro t v r ht hread
  unfold nested? at hread
  split at hread
  · next s hs =>
    have hlt := length_of_skipBlanks_eq hs
    have hblank := length_skipBlanks_le s
    rw [nested?]
    simp only [hs]
    split at hread
    · next s' hs' =>
      cases hread
      have hlt' := length_of_skipBlanks_eq hs'
      exact ⟨by omega, _, rfl⟩
    · obtain ⟨ms, hms⟩ := exists_of_map_eq_some hread fun _ => rfl
      obtain ⟨hle, ms', hms'⟩ := members?_follows h (by omega) hms
      exact ⟨by omega, .object ms', by rw [hms', Option.map_some]⟩
  · next s hs =>
    have hlt := length_of_skipBlanks_eq hs
    have hblank := length_skipBlanks_le s
    rw [nested?]
    simp only [hs]
    split at hread
    · next s' hs' =>
      cases hread
      have hlt' := length_of_skipBlanks_eq hs'
      exact ⟨by omega, _, rfl⟩
    · obtain ⟨vs, hvs⟩ := exists_of_map_eq_some hread fun _ => rfl
      obtain ⟨hle, vs', hvs'⟩ := items?_follows h (by omega) hvs
      exact ⟨by omega, .array vs', by rw [hvs', Option.map_some]⟩
  · have hblank := length_skipBlanks_le t
    obtain ⟨hle, hskimmed⟩ := simple?_follows (n + 1) _ v r (by omega) hread
    rw [nested?_of_simple? hread]
    exact ⟨hle.trans hblank, hskimmed⟩

/-- **What is read with care can be skimmed**, to the same place and in as many levels as the text
has characters. -/
theorem value?_follows (levels n : Nat) : Follows n (value? careful levels) (value? false n) := by
  have hsimple : ∀ (n : Nat) {t v r}, t.length ≤ n → simple? careful (skipBlanks t) = some (v, r) →
      r.length ≤ t.length ∧ ∃ v', value? false n t = some (v', r) := by
    intro n t v r ht hread
    have hblank := length_skipBlanks_le t
    obtain ⟨hle, hskimmed⟩ := simple?_follows n _ v r (hblank.trans ht) hread
    refine ⟨hle.trans hblank, ?_⟩
    cases n with
    | zero => exact hskimmed
    | succ n =>
      rw [value?, nested?_of_simple? hread]
      exact hskimmed
  induction levels generalizing n with
  | zero => exact fun t v r ht hread => hsimple n ht hread
  | succ levels ih =>
    cases n with
    | zero =>
      intro t v r ht hread
      obtain rfl := List.length_eq_zero_iff.mp (Nat.le_zero.mp ht)
      exact hsimple 0 ht hread
    | succ n => exact nested?_follows (ih n)

end ModuleHooks.Json
