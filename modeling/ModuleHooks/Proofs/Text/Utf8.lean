import Mathlib
import ModuleHooks.Text.Utf8
/-!
# Encodings of texts

Decoding gives back every text from its own bytes, whether it is strict or
lossy: malformed bytes are refused by the one and replaced by the other, and the
encoding of a text has none. Conversely, what is not refused is the encoding of
a text (`decodeUtf8?_eq_some_iff`). Lossy decoding also works on both sides of
an ASCII byte separately, however malformed the bytes before it are, since no
sequence runs over an ASCII byte.

Both directions go one character at a time, and the first one only once for the
two decoders (`exists_isRead`). For it, the leading byte of each length is
looked up (`lead?_two`, `lead?_three`, `lead?_four`) and the continuation bytes
are read one by one (`continue?_cons`); for the other one, what a leading byte
announces is told for each length (`Announces`), and each byte that was taken
holds six bits (`exists_of_continue?`). The narrower ranges after the leading
bytes `E0`, `ED`, `F0` and `F4` are those of characters that are encoded in the
fewest bytes, are no surrogates and do not exceed the last code point.

Texts are ordered by their code points, and their encodings by their bytes. The
two orders are the same (`utf8_lt_utf8_iff`): of sequences of different length
the longer one has the greater leading byte, and the bytes of sequences of one
length are the digits of the code points, the highest digit first
(`utf8Char_append_lt`).
-/

namespace ModuleHooks.Text

/-! ## Bytes -/

theorem toNat_toUInt8 {n : Nat} (h : n < 256) : n.toUInt8.toNat = n := by
  rw [Nat.toUInt8_eq, UInt8.toNat_ofNat']
  exact Nat.mod_eq_of_lt h

theorem toUInt8_of_toNat {b : UInt8} {n : Nat} (h : b.toNat = n) : n.toUInt8 = b := by
  rw [← h, Nat.toUInt8_eq, UInt8.ofNat_toNat]

/-- A byte below the first continuation byte stands for itself. -/
theorem lead?_ascii {b : UInt8} (h : b.toNat < 0x80) : lead? b = some (0, b.toNat, 0, 0) :=
  if_pos (UInt8.lt_iff_toNat_lt.mpr h)

theorem lead?_two : ∀ k : Nat, 2 ≤ k → k < 32 →
    lead? (0xC0 + k).toUInt8 = some (1, k, 0x80, 0xBF) := by
  decide

theorem lead?_three : ∀ k : Nat, k < 16 → lead? (0xE0 + k).toUInt8
    = some (2, k, if k = 0 then 0xA0 else 0x80, if k = 13 then 0x9F else 0xBF) := by
  decide

theorem lead?_four : ∀ k : Nat, k < 5 → lead? (0xF0 + k).toUInt8
    = some (3, k, if k = 0 then 0x90 else 0x80, if k = 4 then 0x8F else 0xBF) := by
  decide

/-- **What a leading byte announces**, told for each number of bytes that follow. -/
inductive Announces (b : UInt8) : Nat → Nat → UInt8 → UInt8 → Prop where
  | none {lo hi : UInt8} : b.toNat < 0x80 → Announces b 0 b.toNat lo hi
  | one {bits : Nat} : b.toNat = 0xC0 + bits → 2 ≤ bits → bits < 32 → Announces b 1 bits 0x80 0xBF
  | two {bits : Nat} {lo hi : UInt8} : b.toNat = 0xE0 + bits → bits < 16 → 0x80 ≤ lo.toNat →
    hi.toNat ≤ 0xBF → (bits = 0 → 0xA0 ≤ lo.toNat) → (bits = 13 → hi.toNat ≤ 0x9F) →
    Announces b 2 bits lo hi
  | three {bits : Nat} {lo hi : UInt8} : b.toNat = 0xF0 + bits → bits < 5 → 0x80 ≤ lo.toNat →
    hi.toNat ≤ 0xBF → (bits = 0 → 0x90 ≤ lo.toNat) → (bits = 4 → hi.toNat ≤ 0x8F) →
    Announces b 3 bits lo hi

theorem announces_of_lead? {b lo hi : UInt8} {n bits : Nat}
    (h : lead? b = some (n, bits, lo, hi)) : Announces b n bits lo hi := by
  unfold lead? at h
  split_ifs at h <;> simp only [Option.some_inj, Prod.mk.injEq] at h <;>
    obtain ⟨rfl, rfl, rfl, rfl⟩ := h <;>
    simp only [UInt8.lt_iff_toNat_lt, ← UInt8.toNat_inj, UInt8.reduceToNat] at *
  · exact .none (by omega)
  · exact .one (by omega) (by omega) (by omega)
  iterate 3
    exact .two (by omega) (by omega) (by simp) (by simp) (by simp <;> omega)
      (by simp <;> omega)
  iterate 3
    exact .three (by omega) (by omega) (by simp) (by simp) (by simp <;> omega)
      (by simp <;> omega)

/-- Where more bytes have to follow, they are continuation bytes. -/
theorem le_of_lead? {b lo hi : UInt8} {n bits : Nat} (h : lead? b = some (n, bits, lo, hi)) :
    n = 0 ∨ 0x80 ≤ lo.toNat := by
  cases announces_of_lead? h with
  | none => exact Or.inl rfl
  | one => exact Or.inr (by decide)
  | two _ _ hlo => exact Or.inr hlo
  | three _ _ hlo => exact Or.inr hlo

/-- **A continuation byte adds six bits.** -/
theorem continue?_cons (n acc : Nat) {lo hi : UInt8} {m : Nat} (hm : m < 64)
    (hlo : lo.toNat ≤ 0x80 + m) (hhi : 0x80 + m ≤ hi.toNat) (rest : List UInt8) :
    continue? (n + 1) acc lo hi ((0x80 + m).toUInt8 :: rest)
      = ((continue? n (acc * 64 + m) 0x80 0xBF rest).1 + 1,
          (continue? n (acc * 64 + m) 0x80 0xBF rest).2) := by
  have hb : (0x80 + m).toUInt8.toNat = 0x80 + m := toNat_toUInt8 (by omega)
  have hrange : (decide (lo ≤ (0x80 + m).toUInt8) && decide ((0x80 + m).toUInt8 ≤ hi)) = true := by
    rw [Bool.and_eq_true, decide_eq_true_iff, decide_eq_true_iff, UInt8.le_iff_toNat_le,
      UInt8.le_iff_toNat_le, hb]
    exact ⟨hlo, hhi⟩
  rw [continue?, if_pos hrange, hb, Nat.add_sub_cancel_left]

theorem continue?_zero (acc : Nat) (lo hi : UInt8) (rest : List UInt8) :
    continue? 0 acc lo hi rest = (0, some acc) := by
  rw [continue?]

theorem continue?_zero_iff {acc k cp : Nat} {lo hi : UInt8} {r : List UInt8} :
    continue? 0 acc lo hi r = (k, some cp) ↔ k = 0 ∧ cp = acc := by
  rw [continue?_zero, Prod.mk.injEq, Option.some_inj, eq_comm, @eq_comm _ acc]

/-- **A continuation byte that was taken** holds six bits of the code point. -/
theorem exists_of_continue? {n acc k cp : Nat} {lo hi : UInt8} {r : List UInt8}
    (hlo : 0x80 ≤ lo.toNat) (h : continue? (n + 1) acc lo hi r = (k, some cp)) :
    ∃ d rest k', r = (0x80 + d).toUInt8 :: rest ∧ lo.toNat ≤ 0x80 + d ∧ 0x80 + d ≤ hi.toNat
      ∧ k = k' + 1 ∧ continue? n (acc * 64 + d) 0x80 0xBF rest = (k', some cp) := by
  cases r with
  | nil =>
    rw [continue?] at h
    cases h
  | cons b rest =>
    rw [continue?] at h
    split at h
    · next hrange =>
      rw [Bool.and_eq_true, decide_eq_true_iff, decide_eq_true_iff, UInt8.le_iff_toNat_le,
        UInt8.le_iff_toNat_le] at hrange
      simp only [Prod.mk.injEq] at h
      have hb : b.toNat = 0x80 + (b.toNat - 0x80) := by omega
      exact ⟨b.toNat - 0x80, rest, _, by rw [toUInt8_of_toNat hb], by omega, by omega, h.1.symm,
        Prod.ext rfl h.2⟩
    · cases h

/-- A well-formed sequence becomes its character. -/
theorem decodeLossyFrom_of_lead? {b lo hi : UInt8} {n bits k cp : Nat} {rest : List UInt8}
    (hlead : lead? b = some (n, bits, lo, hi))
    (hrest : continue? n bits lo hi rest = (k, some cp)) :
    decodeLossyFrom 0 (b :: rest) = Char.ofNat cp :: decodeLossyFrom k rest := by
  rw [decodeLossyFrom, hlead]
  simp only [hrest]

/-! ## One character -/

/-- **What a decoder sees of a character**: its leading byte announces the bytes that follow, and
these are read as its code point. -/
structure IsRead (c : Char) (lead : UInt8) (more : List UInt8) : Prop where
  utf8Char_eq : utf8Char c = lead :: more
  continue?_eq : ∃ bits lo hi, lead? lead = some (more.length, bits, lo, hi)
    ∧ ∀ rest, continue? more.length bits lo hi (more ++ rest) = (more.length, some c.toNat)

/-- **The bytes of a character are read as the character.** -/
theorem exists_isRead (c : Char) : ∃ lead more, IsRead c lead more := by
  -- One case for each number of bytes; the case of three needs that no character is a surrogate.
  have hvalid : c.toNat < 0xD800 ∨ 0xDFFF < c.toNat ∧ c.toNat < 0x110000 := c.valid
  have hbytes := utf8Char.eq_def c
  dsimp only at hbytes
  generalize hn : c.toNat = n at hvalid hbytes
  by_cases h1 : n < 0x80
  · rw [if_pos h1] at hbytes
    refine ⟨_, _, hbytes, _, _, _,
      lead?_ascii (by rw [toNat_toUInt8 (by omega)]; exact h1), fun rest => ?_⟩
    rw [toNat_toUInt8 (by omega), hn]
    exact continue?_zero _ _ _ _
  rw [if_neg h1] at hbytes
  by_cases h2 : n < 0x800
  · rw [if_pos h2] at hbytes
    refine ⟨_, _, hbytes, _, _, _, lead?_two _ (by omega) (by omega), fun rest => ?_⟩
    show continue? 1 _ _ _ ((0x80 + n % 64).toUInt8 :: rest) = (1, some c.toNat)
    rw [continue?_cons 0 _ (by omega) (by simp) (by simp; omega), continue?_zero, hn]
    simp only [Prod.mk.injEq, Option.some_inj, true_and]
    omega
  rw [if_neg h2] at hbytes
  by_cases h3 : n < 0x10000
  · rw [if_pos h3] at hbytes
    refine ⟨_, _, hbytes, _, _, _, lead?_three _ (by omega), fun rest => ?_⟩
    show continue? 2 _ _ _ ((0x80 + n / 64 % 64).toUInt8 :: (0x80 + n % 64).toUInt8 :: rest)
      = (2, some c.toNat)
    rw [continue?_cons 1 _ (by omega) (by split <;> simp; omega) (by split <;> simp <;> omega),
      continue?_cons 0 _ (by omega) (by simp) (by simp; omega), continue?_zero, hn]
    simp only [Prod.mk.injEq, Option.some_inj, true_and]
    omega
  rw [if_neg h3] at hbytes
  refine ⟨_, _, hbytes, _, _, _, lead?_four _ (by omega), fun rest => ?_⟩
  show continue? 3 _ _ _ ((0x80 + n / 4096 % 64).toUInt8 :: (0x80 + n / 64 % 64).toUInt8
    :: (0x80 + n % 64).toUInt8 :: rest) = (3, some c.toNat)
  rw [continue?_cons 2 _ (by omega) (by split <;> simp; omega) (by split <;> simp <;> omega),
    continue?_cons 1 _ (by omega) (by simp) (by simp; omega),
    continue?_cons 0 _ (by omega) (by simp) (by simp; omega), continue?_zero, hn]
  simp only [Prod.mk.injEq, Option.some_inj, true_and]
  omega

/-- Bytes that were read are passed over. -/
theorem decodeLossyFrom_length (x rest : List UInt8) :
    decodeLossyFrom x.length (x ++ rest) = decodeLossyFrom 0 rest := by
  induction x with
  | nil => rfl
  | cons b x ih => exact ih

theorem decodeStrictFrom_length (x rest : List UInt8) :
    decodeStrictFrom x.length (x ++ rest) = decodeStrictFrom 0 rest := by
  induction x with
  | nil => rfl
  | cons b x ih => exact ih

theorem decodeLossyFrom_utf8Char (c : Char) (rest : List UInt8) :
    decodeLossyFrom 0 (utf8Char c ++ rest) = c :: decodeLossyFrom 0 rest := by
  obtain ⟨lead, more, h⟩ := exists_isRead c
  obtain ⟨bits, lo, hi, hlead, hmore⟩ := h.continue?_eq
  rw [h.utf8Char_eq, List.cons_append, decodeLossyFrom_of_lead? hlead (hmore rest),
    decodeLossyFrom_length, Char.ofNat_toNat]

theorem decodeStrictFrom_utf8Char (c : Char) (rest : List UInt8) :
    decodeStrictFrom 0 (utf8Char c ++ rest) = (decodeStrictFrom 0 rest).map (c :: ·) := by
  obtain ⟨lead, more, h⟩ := exists_isRead c
  obtain ⟨bits, lo, hi, hlead, hmore⟩ := h.continue?_eq
  rw [h.utf8Char_eq, List.cons_append, decodeStrictFrom, hlead]
  simp only [hmore rest, decodeStrictFrom_length, Char.ofNat_toNat]

/-! ## Texts -/

@[simp] theorem utf8_cons (c : Char) (t : Text) : utf8 (c :: t) = utf8Char c ++ utf8 t := rfl

/-- **Decoding the bytes of a text gives the text.** -/
theorem decodeLossy_utf8 (t : Text) : decodeLossy (utf8 t) = t := by
  unfold decodeLossy
  induction t with
  | nil => rfl
  | cons c t ih => rw [utf8_cons, decodeLossyFrom_utf8Char, ih]

/-- **The bytes of a text are well formed.** -/
theorem decodeUtf8?_utf8 (t : Text) : decodeUtf8? (utf8 t) = some t := by
  unfold decodeUtf8?
  induction t with
  | nil => rfl
  | cons c t ih => rw [utf8_cons, decodeStrictFrom_utf8Char, ih, Option.map_some]

/-- **A sequence that is read as a code point** is the encoding of its character. -/
theorem utf8Char_append_drop {b lo hi : UInt8} {n bits k cp : Nat} {r : List UInt8}
    (hlead : lead? b = some (n, bits, lo, hi)) (h : continue? n bits lo hi r = (k, some cp)) :
    utf8Char (Char.ofNat cp) ++ r.drop k = b :: r := by
  have hchar : ∀ {m : Nat}, m < 0xD800 ∨ 0xDFFF < m ∧ m < 0x110000 → (Char.ofNat m).toNat = m := by
    intro m hm
    rw [Char.toNat_ofNat, if_pos hm]
  unfold utf8Char
  cases announces_of_lead? hlead with
  | none hb =>
    obtain ⟨rfl, rfl⟩ := continue?_zero_iff.mp h
    rw [hchar (by omega)]
    dsimp only
    rw [if_pos hb, toUInt8_of_toNat rfl]
    rfl
  | one hb hmin hmax =>
    obtain ⟨d, rest, k', rfl, hlo, hhi, rfl, hend⟩ := exists_of_continue? (by decide) h
    obtain ⟨rfl, rfl⟩ := continue?_zero_iff.mp hend
    simp only [UInt8.reduceToNat] at hlo hhi
    have hd : (bits * 64 + d) % 64 = d := by omega
    rw [hchar (by omega)]
    dsimp only
    rw [if_neg (by omega), if_pos (by omega), toUInt8_of_toNat (b := b) (by omega), hd]
    rfl
  | two hb hbits hlo hhi hfirst hlast =>
    obtain ⟨d, more, _, rfl, hd, hd', rfl, hmore⟩ := exists_of_continue? hlo h
    obtain ⟨e, rest, _, rfl, he, he', rfl, hend⟩ := exists_of_continue? (by decide) hmore
    obtain ⟨rfl, rfl⟩ := continue?_zero_iff.mp hend
    simp only [UInt8.reduceToNat] at he he'
    have hdigits : ((bits * 64 + d) * 64 + e) / 64 % 64 = d
        ∧ ((bits * 64 + d) * 64 + e) % 64 = e := by
      omega
    rw [hchar (by omega)]
    dsimp only
    rw [if_neg (by omega), if_neg (by omega), if_pos (by omega), hdigits.1, hdigits.2,
      toUInt8_of_toNat (b := b) (by omega)]
    rfl
  | three hb hbits hlo hhi hfirst hlast =>
    obtain ⟨d, more, _, rfl, hd, hd', rfl, hmore⟩ := exists_of_continue? hlo h
    obtain ⟨e, more, _, rfl, he, he', rfl, hmore'⟩ := exists_of_continue? (by decide) hmore
    obtain ⟨f, rest, _, rfl, hf, hf', rfl, hend⟩ := exists_of_continue? (by decide) hmore'
    obtain ⟨rfl, rfl⟩ := continue?_zero_iff.mp hend
    simp only [UInt8.reduceToNat] at he he' hf hf'
    have hdigits : (((bits * 64 + d) * 64 + e) * 64 + f) / 4096 % 64 = d
        ∧ (((bits * 64 + d) * 64 + e) * 64 + f) / 64 % 64 = e
        ∧ (((bits * 64 + d) * 64 + e) * 64 + f) % 64 = f := by
      omega
    rw [hchar (by omega)]
    dsimp only
    rw [if_neg (by omega), if_neg (by omega), if_neg (by omega), hdigits.1, hdigits.2.1,
      hdigits.2.2, toUInt8_of_toNat (b := b) (by omega)]
    rfl

theorem utf8_of_decodeStrictFrom {k : Nat} {x : List UInt8} {t : Text}
    (h : decodeStrictFrom k x = some t) : utf8 t = x.drop k := by
  induction x generalizing k t with
  | nil =>
    rw [decodeStrictFrom] at h
    cases h
    rw [List.drop_nil]
    rfl
  | cons b x ih =>
    cases k with
    | succ k =>
      rw [decodeStrictFrom] at h
      exact ih h
    | zero =>
      rw [decodeStrictFrom] at h
      cases hlead : lead? b with
      | none =>
        rw [hlead] at h
        cases h
      | some lead =>
        obtain ⟨n, bits, lo, hi⟩ := lead
        rw [hlead] at h
        dsimp only at h
        split at h
        · next k' cp hread =>
          obtain ⟨t, ht, rfl⟩ := Option.map_eq_some_iff.mp h
          rw [utf8_cons, ih ht, utf8Char_append_drop hlead hread, List.drop_zero]
        · cases h

/-- **Strict decoding takes just the encodings of texts.** -/
theorem decodeUtf8?_eq_some_iff {bytes : List UInt8} {t : Text} :
    decodeUtf8? bytes = some t ↔ utf8 t = bytes := by
  constructor
  · exact fun h => utf8_of_decodeStrictFrom h
  · rintro rfl
    exact decodeUtf8?_utf8 t

/-! ## On both sides of an ASCII byte -/

/-- The bytes that continue a sequence stand before the next ASCII byte. -/
theorem continue?_append_cons {n acc : Nat} {lo hi a : UInt8} (ha : a.toNat < 0x80)
    (hlo : n = 0 ∨ 0x80 ≤ lo.toNat) (x y : List UInt8) :
    continue? n acc lo hi (x ++ a :: y) = continue? n acc lo hi x
      ∧ (continue? n acc lo hi x).1 ≤ x.length := by
  induction n generalizing acc lo hi x with
  | zero =>
    rw [continue?_zero, continue?_zero]
    exact ⟨rfl, Nat.zero_le _⟩
  | succ n ih =>
    have hlo : 0x80 ≤ lo.toNat := hlo.resolve_left (Nat.succ_ne_zero n)
    cases x with
    | nil =>
      have hout : ¬(decide (lo ≤ a) && decide (a ≤ hi)) = true := by
        rw [Bool.and_eq_true, decide_eq_true_iff, UInt8.le_iff_toNat_le]
        omega
      exact ⟨by rw [continue?, List.nil_append, continue?, if_neg hout], Nat.le_refl 0⟩
    | cons b x =>
      have hih : continue? n (acc * 64 + (b.toNat - 0x80)) 0x80 0xBF (x ++ a :: y)
            = continue? n (acc * 64 + (b.toNat - 0x80)) 0x80 0xBF x
          ∧ (continue? n (acc * 64 + (b.toNat - 0x80)) 0x80 0xBF x).1 ≤ x.length :=
        ih (Or.inr (by decide)) x
      rw [List.cons_append, continue?, continue?, hih.1]
      split
      · exact ⟨rfl, Nat.succ_le_succ hih.2⟩
      · exact ⟨rfl, Nat.zero_le _⟩

/-- **An ASCII byte parts the text**, whatever stands before it. -/
theorem decodeLossy_append_cons {a : UInt8} (ha : a.toNat < 0x80) (x y : List UInt8) :
    decodeLossy (x ++ a :: y) = decodeLossy x ++ Char.ofNat a.toNat :: decodeLossy y := by
  have hstep : ∀ k, k ≤ x.length → decodeLossyFrom k (x ++ a :: y)
      = decodeLossyFrom k x ++ Char.ofNat a.toNat :: decodeLossyFrom 0 y := by
    induction x with
    | nil =>
      intro k hk
      rw [Nat.le_zero.mp hk, List.nil_append,
        decodeLossyFrom_of_lead? (lead?_ascii ha) (continue?_zero _ _ _ _), decodeLossyFrom,
        List.nil_append]
    | cons b x ih =>
      intro k hk
      cases k with
      | succ k =>
        rw [List.cons_append, decodeLossyFrom, decodeLossyFrom]
        exact ih k (Nat.le_of_succ_le_succ hk)
      | zero =>
        rw [List.cons_append, decodeLossyFrom, decodeLossyFrom]
        cases hlead : lead? b with
        | none => simp only [ih 0 (Nat.zero_le _), List.cons_append]
        | some lead =>
          obtain ⟨n, bits, lo, hi⟩ := lead
          obtain ⟨hsame, hle⟩ : continue? n bits lo hi (x ++ a :: y) = continue? n bits lo hi x
              ∧ (continue? n bits lo hi x).1 ≤ x.length :=
            continue?_append_cons ha (le_of_lead? hlead) x y
          simp only [hsame]
          rw [ih _ hle]
          cases (continue? n bits lo hi x).2 <;> rfl
  exact hstep 0 (Nat.zero_le _)

/-! ## The order of encodings -/

section Digits

variable {n k : Nat} {x y : List UInt8}

/-- Bytes are compared by the first of them that differs. -/
theorem toUInt8_cons_lt {a b : Nat} (ha : a < 256) (hb : b < 256)
    (h : a < b ∨ a = b ∧ x < y) : a.toUInt8 :: x < b.toUInt8 :: y := by
  rw [List.cons_lt_cons_iff, UInt8.lt_iff_toNat_lt, toNat_toUInt8 ha, toNat_toUInt8 hb]
  exact h.imp_right fun h => ⟨congrArg Nat.toUInt8 h.1, h.2⟩

/-- The last digit decides where the digits before it are the same. -/
theorem lastDigit_lt (h : n < k) (hq : n / 64 = k / 64) :
    (0x80 + n % 64).toUInt8 :: x < (0x80 + k % 64).toUInt8 :: y :=
  toUInt8_cons_lt (by omega) (by omega) (Or.inl (by omega))

theorem lastTwoDigits_lt (h : n < k) (hq : n / 4096 = k / 4096) :
    (0x80 + n / 64 % 64).toUInt8 :: (0x80 + n % 64).toUInt8 :: x
      < (0x80 + k / 64 % 64).toUInt8 :: (0x80 + k % 64).toUInt8 :: y := by
  refine toUInt8_cons_lt (by omega) (by omega) ?_
  by_cases hd : n / 64 = k / 64
  · exact Or.inr ⟨by rw [hd], lastDigit_lt h hd⟩
  · exact Or.inl (by omega)

theorem lastThreeDigits_lt (h : n < k) (hq : n / 262144 = k / 262144) :
    (0x80 + n / 4096 % 64).toUInt8 :: (0x80 + n / 64 % 64).toUInt8 :: (0x80 + n % 64).toUInt8 :: x
      < (0x80 + k / 4096 % 64).toUInt8 :: (0x80 + k / 64 % 64).toUInt8
        :: (0x80 + k % 64).toUInt8 :: y := by
  refine toUInt8_cons_lt (by omega) (by omega) ?_
  by_cases hd : n / 4096 = k / 4096
  · exact Or.inr ⟨by rw [hd], lastTwoDigits_lt h hd⟩
  · exact Or.inl (by omega)

end Digits

/-- **The bytes of a lesser character come first**, whatever follows either. -/
theorem utf8Char_append_lt {a b : Char} (h : a < b) (x y : List UInt8) :
    utf8Char a ++ x < utf8Char b ++ y := by
  have hlt : a.toNat < b.toNat := UInt32.lt_iff_toNat_lt.mp h
  have hmax : b.toNat < 0x110000 := by
    rcases b.valid with hb | hb
    · exact lt_trans hb (by decide)
    · exact hb.2
  unfold utf8Char
  dsimp only
  generalize a.toNat = n at hlt
  generalize b.toNat = k at hlt hmax
  -- One case for each two numbers of bytes. Where they differ, the leading bytes do.
  split_ifs <;> simp only [List.cons_append, List.nil_append] <;>
    refine toUInt8_cons_lt (by omega) (by omega) ?_
  all_goals try exact Or.inl (by omega)
  · by_cases hd : n / 64 = k / 64
    · exact Or.inr ⟨by rw [hd], lastDigit_lt hlt hd⟩
    · exact Or.inl (by omega)
  · by_cases hd : n / 4096 = k / 4096
    · exact Or.inr ⟨by rw [hd], lastTwoDigits_lt hlt hd⟩
    · exact Or.inl (by omega)
  · by_cases hd : n / 262144 = k / 262144
    · exact Or.inr ⟨by rw [hd], lastThreeDigits_lt hlt hd⟩
    · exact Or.inl (by omega)

theorem utf8Char_ne_nil (c : Char) : utf8Char c ≠ [] := by
  unfold utf8Char
  dsimp only
  split_ifs <;> exact List.cons_ne_nil _ _

/-- **The order of encodings is the order of texts.** -/
theorem utf8_lt_utf8_iff {s t : Text} : utf8 s < utf8 t ↔ s < t := by
  have hmono : ∀ {s t : Text}, s < t → utf8 s < utf8 t := by
    intro s t h
    induction h with
    | @nil c t =>
      rw [utf8_cons]
      obtain ⟨b, r, hb⟩ := List.exists_cons_of_ne_nil (utf8Char_ne_nil c)
      rw [hb]
      exact List.nil_lt_cons b _
    | cons _ ih => exact List.append_left_lt ih
    | rel hab => exact utf8Char_append_lt hab _ _
  refine ⟨fun h => ?_, hmono⟩
  rcases lt_trichotomy s t with hst | rfl | hst
  · exact hst
  · exact absurd h (List.lt_irrefl _)
  · exact absurd (hmono hst) (List.lt_asymm h)

end ModuleHooks.Text
