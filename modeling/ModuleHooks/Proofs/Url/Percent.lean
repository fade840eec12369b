import ModuleHooks.Proofs.Text.Utf8
import ModuleHooks.Proofs.Text.Pieces
import ModuleHooks.Url.Percent
/-!
# Percent encoding and its inverse

Two questions are asked of the encoding of a part of a URL. A file name is
encoded with the percent sign among the encoded characters, so decoding gives
the name back (`decode_encode`). The segments of a reference are encoded with
the percent sign left alone, since they may hold triples already; decoding
them afterwards gives what decoding the segment as it was written gives
(`decode_encode_of_keeps`).

Both rest on how the reader of triples proceeds: over a character that is no
percent sign (`decodeBytes_cons`), over a triple (`decodeBytes_triple`), and
over a percent sign that begins none (`decodeBytes_percent`).
-/

namespace ModuleHooks.Percent

/-! ## Steps of the reader -/

/-- Whether a text begins with two hexadecimal digits. -/
def BeginsWithDigits : Text → Prop
  | a :: b :: _ => (Text.hexValue? a).isSome ∧ (Text.hexValue? b).isSome
  | _ => False

@[simp] theorem decodeBytes_nil : decodeBytes [] = [] := by rw [decodeBytes]

/-- A character that is no percent sign stands for itself. -/
theorem decodeBytes_cons {c : Char} (hc : c ≠ '%') (t : Text) :
    decodeBytes (c :: t) = Text.utf8Char c ++ decodeBytes t := by
  rw [decodeBytes]
  exact fun a b r h _ => hc h

/-- A percent sign that begins no triple stands for itself. -/
theorem decodeBytes_percent {t : Text} (h : ¬BeginsWithDigits t) :
    decodeBytes ('%' :: t) = 37 :: decodeBytes t := by
  match t, h with
  | [], _ => rfl
  | [a], _ => rfl
  | a :: b :: r, h =>
    rw [decodeBytes]
    cases ha : Text.hexValue? a with
    | none => rfl
    | some x =>
      cases hb : Text.hexValue? b with
      | none => rfl
      | some y => exact absurd ⟨by rw [ha]; rfl, by rw [hb]; rfl⟩ h

theorem hexValue?_hexDigit : ∀ n : Nat, n < 16 →
    Text.hexValue? (Text.hexDigit n).toUpper = some n := by
  decide

/-- **A triple stands for its byte.** -/
theorem decodeBytes_triple (b : UInt8) (t : Text) :
    decodeBytes (triple b ++ t) = b :: decodeBytes t := by
  have hb : b.toNat < 256 := b.toNat_lt
  show decodeBytes ('%' :: (Text.hexDigit (b.toNat / 16)).toUpper
    :: (Text.hexDigit (b.toNat % 16)).toUpper :: t) = _
  rw [decodeBytes, hexValue?_hexDigit _ (by omega), hexValue?_hexDigit _ (by omega)]
  have hsum : b.toNat / 16 * 16 + b.toNat % 16 = b.toNat := by omega
  simp only [hsum, Nat.toUInt8_eq, UInt8.ofNat_toNat]

theorem decodeBytes_triples (bs : List UInt8) (t : Text) :
    decodeBytes (bs.flatMap triple ++ t) = bs ++ decodeBytes t := by
  induction bs with
  | nil => rfl
  | cons b bs ih =>
    rw [List.flatMap_cons, List.append_assoc, decodeBytes_triple, ih, List.cons_append]

/-! ## Encoding -/

@[simp] theorem encode_nil (set : EncodeSet) : encode set [] = [] := rfl

@[simp] theorem encode_cons (set : EncodeSet) (c : Char) (t : Text) :
    encode set (c :: t) = encodeChar set c ++ encode set t := rfl

/-- A text without characters of the set is its own encoding. -/
theorem encode_eq_self {set : EncodeSet} {t : Text} (h : ∀ c ∈ t, set c = false) :
    encode set t = t := by
  induction t with
  | nil => rfl
  | cons c t ih =>
    obtain ⟨hc, ht⟩ := List.forall_mem_cons.mp h
    rw [encode_cons, ih ht, encodeChar, if_neg (by rw [hc]; decide), List.singleton_append]

/-- An encoded character is read as its bytes. -/
theorem decodeBytes_encodeChar {set : EncodeSet} {c : Char} (hc : set c = true ∨ c ≠ '%')
    (t : Text) : decodeBytes (encodeChar set c ++ t) = Text.utf8Char c ++ decodeBytes t := by
  unfold encodeChar
  split
  · exact decodeBytes_triples _ t
  · next hset => exact decodeBytes_cons (hc.resolve_left hset) t

/-- **A file name comes back from its encoding**, because the percent sign is
encoded too. -/
theorem decode_encode {set : EncodeSet} (hset : set '%' = true) (t : Text) :
    decode (encode set t) = t := by
  have h : decodeBytes (encode set t) = Text.utf8 t := by
    induction t with
    | nil => exact decodeBytes_nil
    | cons c t ih =>
      rw [encode_cons, decodeBytes_encodeChar, ih, Text.utf8_cons]
      by_cases hc : c = '%'
      · exact Or.inl (hc ▸ hset)
      · exact Or.inr hc
  rw [decode, h, Text.decodeLossy_utf8]

/-- **A text without percent signs decodes to itself.** -/
theorem decode_eq_self {t : Text} (h : '%' ∉ t) : decode t = t := by
  have hbytes : decodeBytes t = Text.utf8 t := by
    induction t with
    | nil => exact decodeBytes_nil
    | cons c t ih =>
      rw [List.mem_cons, not_or] at h
      rw [decodeBytes_cons (Ne.symm h.1), ih h.2, Text.utf8_cons]
  rw [decode, hbytes, Text.decodeLossy_utf8]

/-! ## Encoding what may hold triples -/

/-- A set that leaves percent signs and hexadecimal digits alone. -/
def Keeps (set : EncodeSet) : Prop := ∀ c, c = '%' ∨ (Text.hexValue? c).isSome → set c = false

/-- Whether a set leaves them alone is told by its ASCII characters. -/
theorem keeps_of_forall_ascii {set : EncodeSet}
    (h : ∀ n, n < 128 → (!(Char.ofNat n == '%' || (Text.hexValue? (Char.ofNat n)).isSome)
      || !set (Char.ofNat n)) = true) : Keeps set := by
  intro c hc
  have hascii : c.toNat < 128 := by
    rcases hc with rfl | hc
    · decide
    unfold Text.hexValue? at hc
    dsimp only at hc
    split_ifs at hc with h09 haf hAF
    · rw [Bool.and_eq_true, decide_eq_true_iff, decide_eq_true_iff] at h09
      omega
    · rw [Bool.and_eq_true, decide_eq_true_iff, decide_eq_true_iff] at haf
      omega
    · rw [Bool.and_eq_true, decide_eq_true_iff, decide_eq_true_iff] at hAF
      omega
    · cases hc
  have himp : (!(c == '%' || (Text.hexValue? c).isSome) || !set c) = true :=
    Text.forall_ascii (p := fun c => !(c == '%' || (Text.hexValue? c).isSome) || !set c) h hascii
  have hkept : (c == '%' || (Text.hexValue? c).isSome) = true :=
    Bool.or_eq_true _ _ ▸ hc.imp beq_iff_eq.mpr id
  rw [hkept] at himp
  exact (Bool.not_eq_true' _).mp himp

/-- A triple consists of a percent sign and digits. -/
theorem eq_or_isSome_of_mem_triple {b : UInt8} {c : Char} (h : c ∈ triple b) :
    c = '%' ∨ (Text.hexValue? c).isSome := by
  have hb : b.toNat < 256 := b.toNat_lt
  have hdigit : ∀ n, n < 16 → (Text.hexValue? (Text.hexDigit n).toUpper).isSome := fun n hn => by
    rw [hexValue?_hexDigit n hn]
    rfl
  simp only [triple, List.mem_cons, List.not_mem_nil, or_false] at h
  rcases h with rfl | rfl | rfl
  · exact Or.inl rfl
  · exact Or.inr (hdigit _ (by omega))
  · exact Or.inr (hdigit _ (by omega))

/-- **What an encoding consists of**: a set that leaves triples alone is avoided by an encoding
if it is avoided by the characters that are not encoded. -/
theorem forall_mem_encode {set set' : EncodeSet} (hset' : Keeps set') {t : Text}
    (h : ∀ c ∈ t, set c = false → set' c = false) : ∀ c ∈ encode set t, set' c = false := by
  intro c hc
  obtain ⟨d, hd, hmem⟩ := List.mem_flatMap.mp hc
  unfold encodeChar at hmem
  split_ifs at hmem with hset
  · obtain ⟨b, -, hb⟩ := List.mem_flatMap.mp hmem
    exact hset' c (eq_or_isSome_of_mem_triple hb)
  · rw [List.mem_singleton.mp hmem]
    exact h d hd (Bool.eq_false_of_not_eq_true hset)

/-- No character of the set is left in an encoding. -/
theorem forall_mem_encode_self {set : EncodeSet} (hset : Keeps set) (t : Text) :
    ∀ c ∈ encode set t, set c = false :=
  forall_mem_encode hset fun _ _ h => h

/-- What an encoded character begins with is no digit. -/
theorem encodeChar_of_mem {set : EncodeSet} {c : Char} (hc : set c = true) :
    ∃ r, encodeChar set c = '%' :: r := by
  have hne : Text.utf8Char c ≠ [] := by
    unfold Text.utf8Char
    dsimp only
    split_ifs <;> exact List.cons_ne_nil _ _
  obtain ⟨b, bs, hbytes⟩ := List.exists_cons_of_ne_nil hne
  rw [encodeChar, if_pos hc, hbytes, List.flatMap_cons]
  exact ⟨_, rfl⟩

/-- Encoding makes no triple of a percent sign that begins none. -/
theorem beginsWithDigits_of_encode {set : EncodeSet} {t : Text}
    (h : BeginsWithDigits (encode set t)) : BeginsWithDigits t := by
  have hpercent : ∀ r, ¬BeginsWithDigits ('%' :: r) := by
    rintro (_ | ⟨b, r⟩) hr
    · exact hr
    · exact absurd hr.1 (by decide)
  match t with
  | [] => exact h
  | c :: t =>
    by_cases hc : set c = true
    · obtain ⟨r, hr⟩ := encodeChar_of_mem hc
      rw [encode_cons, hr] at h
      exact absurd h (hpercent _)
    rw [encode_cons, encodeChar, if_neg hc, List.singleton_append] at h
    match t with
    | [] => exact h
    | d :: t =>
      by_cases hd : set d = true
      · obtain ⟨r, hr⟩ := encodeChar_of_mem hd
        rw [encode_cons, hr] at h
        exact absurd h.2 (by decide)
      · rw [encode_cons, encodeChar, if_neg hd, List.singleton_append] at h
        exact h

/-- **Encoding does not change what decoding gives.** -/
theorem decode_encode_of_keeps {set : EncodeSet} (hset : Keeps set) (t : Text) :
    decode (encode set t) = decode t := by
  have hkept : ∀ (c : Char) (r : Text), c = '%' ∨ (Text.hexValue? c).isSome →
      encode set (c :: r) = c :: encode set r := by
    intro c r hc
    rw [encode_cons, encodeChar, if_neg (by rw [hset c hc]; decide), List.singleton_append]
  have h : decodeBytes (encode set t) = decodeBytes t := by
    fun_induction decodeBytes t with
    | case1 a b r x y hy hx ih =>
      rw [hkept _ _ (Or.inl rfl), hkept _ _ (Or.inr (by rw [hx]; rfl)),
        hkept _ _ (Or.inr (by rw [hy]; rfl)), decodeBytes, hx, hy, ih]
    | case2 a b r hno ih =>
      have hr : ¬BeginsWithDigits (a :: b :: r) := by
        rintro ⟨ha, hb⟩
        obtain ⟨x, hx⟩ := Option.isSome_iff_exists.mp ha
        obtain ⟨y, hy⟩ := Option.isSome_iff_exists.mp hb
        exact hno x y hx hy
      have hdigits : ¬BeginsWithDigits (encode set (a :: b :: r)) := fun he =>
        hr (beginsWithDigits_of_encode he)
      rw [hkept _ _ (Or.inl rfl), decodeBytes_percent hdigits, ih]
    | case3 c r hc ih =>
      by_cases hpercent : c = '%'
      · subst hpercent
        have hr : ¬BeginsWithDigits r := by
          match r, hc with
          | [], _ => exact id
          | [a], _ => exact id
          | a :: b :: r, hc => exact absurd rfl (hc a b r rfl)
        rw [hkept _ _ (Or.inl rfl),
          decodeBytes_percent (fun he => hr (beginsWithDigits_of_encode he)), ih]
        rfl
      · rw [encode_cons, decodeBytes_encodeChar (Or.inr hpercent), ih]
    | case4 => rw [encode_nil, decodeBytes_nil]
  rw [decode, h, decode]

/-! ## On both sides of a slash -/

/-- A character that is no digit ends every triple before it. -/
theorem decodeBytes_append_cons {c : Char} (hdigit : Text.hexValue? c = none) (s t : Text) :
    decodeBytes (s ++ c :: t) = decodeBytes s ++ decodeBytes (c :: t) := by
  fun_induction decodeBytes s with
  | case1 a b r x y hy hx ih =>
    rw [List.cons_append, List.cons_append, List.cons_append, decodeBytes, hx, hy, ih,
      List.cons_append]
  | case2 a b r hno ih =>
    rw [List.cons_append, decodeBytes_percent, ih, List.cons_append]
    rintro ⟨ha, hb⟩
    obtain ⟨x, hx⟩ := Option.isSome_iff_exists.mp ha
    obtain ⟨y, hy⟩ := Option.isSome_iff_exists.mp hb
    exact hno x y hx hy
  | case3 d r hd ih =>
    rw [List.append_assoc, ← ih, List.cons_append]
    by_cases hdp : d = '%'
    · subst hdp
      refine decodeBytes_percent ?_
      match r, hd with
      | [], _ =>
        match t with
        | [] => exact id
        | e :: t => exact fun h => absurd h.1 (by rw [hdigit]; decide)
      | [a], _ => exact fun h => absurd h.2 (by rw [hdigit]; decide)
      | a :: b :: r, hd => exact absurd rfl (hd a b r rfl)
    · exact decodeBytes_cons hdp _
  | case4 => rfl

/-- **Decoding works on both sides of a slash separately.** -/
theorem decode_append_cons {c : Char} (hascii : c.toNat < 0x80) (hpercent : c ≠ '%')
    (hdigit : Text.hexValue? c = none) (s t : Text) :
    decode (s ++ c :: t) = decode s ++ c :: decode t := by
  have hbyte : Text.utf8Char c = [c.toNat.toUInt8] := if_pos hascii
  have hnat : c.toNat.toUInt8.toNat = c.toNat := Text.toNat_toUInt8 (by omega)
  rw [decode, decodeBytes_append_cons hdigit, decodeBytes_cons hpercent, hbyte,
    List.singleton_append, Text.decodeLossy_append_cons (by rw [hnat]; exact hascii), hnat,
    Char.ofNat_toNat, ← decode, ← decode]

end ModuleHooks.Percent
