import Mathlib
import ModuleHooks.Proofs.Text.Pieces
import ModuleHooks.Text.Quoted
/-!
# Literals and the code around them

Whatever a text holds, its literal ends where it should and is read back as the
text, with what follows it left over (`unquote?_quote_append`). What is read off
the escape of one character is one lemma for each kind of escape, put together in
`unquoteBody?_escapeChar`; the rest is an induction on the text.

Text that enters a source as a literal must stay inside of it. What that means is
told by a scanner that knows nothing of how literals are written or read: a quote
begins a literal, the next quote or the end of the line ends it, and a backslash takes
the character after it along. `code` is what the scanner leaves of a source when it
drops what stands inside of literals.

Texts are alike in a source (`SameCode`) if they leave the same code and what stands
behind them is code again. Sources put together from texts that are alike have the same
code; and all quoted texts are alike (`sameCode_quote`).
-/

namespace ModuleHooks.Text

/-! ## Literals are read back -/

/-- A literal in front of a text, its closing quote together with the text. -/
theorem quote_append (t r : Text) : quote t ++ r = '"' :: (t.flatMap escapeChar ++ '"' :: r) := by
  rw [quote, List.cons_append, List.cons_append, List.append_assoc, List.singleton_append]

/-- An escape by number is read, whatever follows it, if the number is that of a
character on its own. -/
theorem unquoteBody?_hex {a b c d : Char} {n : Nat} (h : hex4? a b c d = some n)
    (hn : n < 0xD800) (r : Text) :
    unquoteBody? ('\\' :: 'u' :: a :: b :: c :: d :: r)
      = (unquoteBody? r).map fun x => (Char.ofNat n :: x.1, x.2) := by
  have hhigh : ¬ 0xD800 ≤ n := by omega
  have hlow : ¬ 0xDC00 ≤ n := by omega
  conv_lhs => rw [unquoteBody?.eq_def]
  -- Another escape may follow; it is not the second half of this one.
  split
  · next heq => cases heq
  · next heq => cases heq
  · next heq =>
    cases heq
    simp [h, hhigh, hlow]
  · next heq =>
    cases heq
    simp [h, hhigh]
  · next hne heq =>
    cases heq
    exact absurd rfl (hne _ _ _ _ _ rfl)
  · next hne heq =>
    cases heq
    exact absurd rfl (hne _ _ rfl)

/-- An escape by letter is read. -/
theorem unquoteBody?_letter {c d : Char} (h : unescape? c = some d) (hc : c ≠ 'u') (r : Text) :
    unquoteBody? ('\\' :: c :: r) = (unquoteBody? r).map fun x => (d :: x.1, x.2) := by
  rw [unquoteBody?, h]
  · exact fun _ _ _ _ _ _ _ _ _ hu _ => hc hu
  · exact fun _ _ _ _ _ hu _ => hc hu

/-- A character that stands for itself is read. -/
theorem unquoteBody?_self {c : Char} (hquote : c ≠ '"') (hslash : c ≠ '\\') (h : 32 ≤ c.toNat)
    (r : Text) : unquoteBody? (c :: r) = (unquoteBody? r).map fun x => (c :: x.1, x.2) := by
  rw [unquoteBody?, if_neg (by omega)]
  · exact hquote
  · exact fun _ _ _ _ _ _ _ _ _ hc _ => hslash hc
  · exact fun _ _ _ _ _ hc _ => hslash hc
  · exact fun _ _ hc _ => hslash hc

theorem hexValue?_hexDigit : ∀ n : Nat, n < 16 → hexValue? (hexDigit n) = some n := by
  decide

/-- The number of a control character is read. -/
theorem hex4?_hexDigit {n : Nat} (h : n < 32) :
    hex4? '0' '0' (hexDigit (n / 16)) (hexDigit (n % 16)) = some n := by
  have hsum : n / 16 * 16 + n % 16 = n := by omega
  rw [hex4?, hexValue?_hexDigit _ (by omega), hexValue?_hexDigit _ (by omega)]
  show some (((0 * 16 + 0) * 16 + n / 16) * 16 + n % 16) = some n
  simp only [Nat.zero_mul, Nat.zero_add, hsum]

/-- **What is read off the escape of a character** is the character. -/
theorem unquoteBody?_escapeChar (c : Char) (r : Text) :
    unquoteBody? (escapeChar c ++ r) = (unquoteBody? r).map fun x => (c :: x.1, x.2) := by
  unfold escapeChar
  split_ifs with hquote hslash hback hfeed hnewline hreturn htab hcontrol
  · subst hquote
    exact unquoteBody?_letter rfl (by decide) r
  · subst hslash
    exact unquoteBody?_letter rfl (by decide) r
  · rw [← Char.ofNat_toNat c, hback]
    exact unquoteBody?_letter rfl (by decide) r
  · rw [← Char.ofNat_toNat c, hfeed]
    exact unquoteBody?_letter rfl (by decide) r
  · subst hnewline
    exact unquoteBody?_letter rfl (by decide) r
  · subst hreturn
    exact unquoteBody?_letter rfl (by decide) r
  · subst htab
    exact unquoteBody?_letter rfl (by decide) r
  · conv_rhs => rw [← Char.ofNat_toNat c]
    exact unquoteBody?_hex (hex4?_hexDigit hcontrol) (by omega) r
  · exact unquoteBody?_self hquote hslash (by omega) r

/-- The body of a literal is read up to its closing quote. -/
theorem unquoteBody?_flatMap_escapeChar (t r : Text) :
    unquoteBody? (t.flatMap escapeChar ++ '"' :: r) = some (t, r) := by
  induction t with
  | nil => rw [List.flatMap_nil, List.nil_append, unquoteBody?]
  | cons c t ih =>
    rw [List.flatMap_cons, List.append_assoc, unquoteBody?_escapeChar, ih]
    rfl

/-- **A literal is read back as its text**, whatever stands behind it. -/
theorem unquote?_quote_append (t r : Text) : unquote? (quote t ++ r) = some (t, r) := by
  rw [quote_append]
  exact unquoteBody?_flatMap_escapeChar t r

/-! ## Code -/

/-- Whether a character ends the literal it stands in. -/
def endsLiteral (c : Char) : Bool := c == '"' || c == '\n' || c == '\r'

/-- **What stands outside of the literals**, with what ends them. The first argument
says whether the text begins inside of one. -/
def codeFrom : Bool → Text → Text
  | _, [] => []
  | false, c :: r => c :: codeFrom (c == '"') r
  | true, '\\' :: _ :: r => codeFrom true r
  | true, c :: r => if endsLiteral c then c :: codeFrom false r else codeFrom true r

/-- **The code of a source**: what stands outside of its literals. -/
def code (t : Text) : Text := codeFrom false t

/-- **Texts that are alike in a source**: whatever follows them, as long as it has the same
code, so have the texts with it. -/
def SameCode (s t : Text) : Prop :=
  ∀ q r : Text, code q = code r → code (s ++ q) = code (t ++ r)

theorem sameCode_nil : SameCode [] [] := fun _ _ h => h

/-- A text in which every literal ends is like itself. -/
theorem sameCode_self {p : Text} (h : ∀ r, code (p ++ r) = code p ++ code r) : SameCode p p := by
  intro q r hqr
  rw [h, h, hqr]

theorem SameCode.append {s t s' t' : Text} (h : SameCode s t) (h' : SameCode s' t') :
    SameCode (s ++ s') (t ++ t') := by
  intro q r hqr
  rw [List.append_assoc, List.append_assoc]
  exact h _ _ (h' q r hqr)

/-- **Lists whose items are alike** are alike. -/
theorem SameCode.join {sep : Text} (hsep : SameCode sep sep) {ps qs : List Text}
    (h : List.Forall₂ SameCode ps qs) : SameCode (Text.join sep ps) (Text.join sep qs) := by
  induction h with
  | nil => exact sameCode_nil
  | cons hp h ih =>
    cases h with
    | nil =>
      rw [join_singleton, join_singleton]
      exact hp
    | cons hq h =>
      rw [join_cons _ (List.cons_ne_nil _ _), join_cons _ (List.cons_ne_nil _ _)]
      exact (hp.append hsep).append ih

/-! ## Inside of a literal -/

/-- A character that stands for itself inside of a literal is dropped. -/
theorem codeFrom_self {c : Char} (hend : endsLiteral c = false) (hslash : c ≠ '\\') (r : Text) :
    codeFrom true (c :: r) = codeFrom true r := by
  rw [codeFrom, hend, if_neg Bool.false_ne_true]
  exact fun _ _ hc _ => hslash hc

/-- A digit ends no literal. -/
theorem endsLiteral_hexDigit :
    ∀ n, n < 16 → endsLiteral (hexDigit n) = false ∧ hexDigit n ≠ '\\' := by
  decide

/-- **The escape of a character is dropped** as a whole. -/
theorem codeFrom_escapeChar (c : Char) (r : Text) :
    codeFrom true (escapeChar c ++ r) = codeFrom true r := by
  unfold escapeChar
  split_ifs with hquote hslash hback hfeed hnewline hreturn htab hcontrol
  · rfl
  · rfl
  · rfl
  · rfl
  · rfl
  · rfl
  · rfl
  · -- The two digits of a control character are what follows the backslash and its letter.
    have hhigh := endsLiteral_hexDigit (c.toNat / 16) (by omega)
    have hlow := endsLiteral_hexDigit (c.toNat % 16) (by omega)
    show codeFrom true (hexDigit (c.toNat / 16) :: hexDigit (c.toNat % 16) :: r) = _
    rw [codeFrom_self hhigh.1 hhigh.2, codeFrom_self hlow.1 hlow.2]
  · have hend : endsLiteral c = false := by
      simp only [endsLiteral, Bool.or_eq_false_iff, beq_eq_false_iff_ne]
      exact ⟨⟨hquote, hnewline⟩, hreturn⟩
    exact codeFrom_self hend hslash r

/-- A literal is dropped up to its closing quote. -/
theorem codeFrom_flatMap_escapeChar (t r : Text) :
    codeFrom true (t.flatMap escapeChar ++ '"' :: r) = '"' :: code r := by
  induction t with
  | nil => rfl
  | cons c t ih => rw [List.flatMap_cons, List.append_assoc, codeFrom_escapeChar, ih]

/-- **After a quoted text there is code again.** -/
theorem code_quote_append (t r : Text) : code (quote t ++ r) = '"' :: '"' :: code r := by
  rw [quote_append]
  show '"' :: codeFrom true (t.flatMap escapeChar ++ '"' :: r) = _
  rw [codeFrom_flatMap_escapeChar]

/-- **All quoted texts are alike.** -/
theorem sameCode_quote (s t : Text) : SameCode (quote s) (quote t) := by
  intro q r hqr
  rw [code_quote_append, code_quote_append, hqr]

end ModuleHooks.Text
