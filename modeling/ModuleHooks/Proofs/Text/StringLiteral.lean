import ModuleHooks.Proofs.Text.Quoted
import ModuleHooks.Text.Utf8
/-!
# String literals of scripts

The texts of a script are sequences of UTF-16 code units, of which not all are the units of
characters. Those of a text are its `units`, and different texts have different ones
(`units_injective`).

A literal is read one character after the other. `Mode` is how far the reading has come, inside of
an escape or between two of them, and `Mode.step` is what the next character does. Scripts know
more literals than JSON: single quotes, escapes by two digits or in braces, escapes of letters that
need none, lines that go on. They have no escapes by octal digits, as modules are strict.

A quoted text is a literal of a script all the same, and stands for the units of the text
(`stringLiteral?_quote_append`).
-/

namespace ModuleHooks.Script

/-! ## Code units -/

/-- The texts of a script: sequences of UTF-16 code units. -/
abbrev Units := List Nat

/-- The code units of a code point. -/
def codeUnits (n : Nat) : Units :=
  if n < 0x10000 then [n]
  else [0xD800 + (n - 0x10000) / 0x400, 0xDC00 + (n - 0x10000) % 0x400]

/-- **The code units of a text.** -/
def units (t : Text) : Units := t.flatMap fun c => codeUnits c.toNat

@[simp] theorem units_nil : units [] = [] := rfl

@[simp] theorem units_cons (c : Char) (t : Text) :
    units (c :: t) = codeUnits c.toNat ++ units t := rfl

theorem codeUnits_ne_nil (n : Nat) : codeUnits n ≠ [] := by
  unfold codeUnits
  split_ifs <;> exact List.cons_ne_nil _ _

/-- **The code units of a character tell the character and where they end**: the first of two is
not one that stands alone. -/
theorem codeUnits_append_inj {c d : Char} {s t : Units}
    (h : codeUnits c.toNat ++ s = codeUnits d.toNat ++ t) : c = d ∧ s = t := by
  have hc : c.toNat < 0xD800 ∨ 0xDFFF < c.toNat ∧ c.toNat < 0x110000 := c.valid
  have hd : d.toNat < 0xD800 ∨ 0xDFFF < d.toNat ∧ d.toNat < 0x110000 := d.valid
  have hnat : c.toNat = d.toNat ∧ s = t := by
    unfold codeUnits at h
    split_ifs at h <;>
      simp only [List.cons_append, List.nil_append, List.cons.injEq] at h
    · exact h
    · omega
    · omega
    · exact ⟨by omega, h.2.2⟩
  exact ⟨Char.toNat_inj.mp hnat.1, hnat.2⟩

/-- **Different texts have different code units.** -/
theorem units_injective : Function.Injective units := by
  intro s t h
  induction s generalizing t with
  | nil =>
    cases t with
    | nil => rfl
    | cons d t => exact absurd (List.append_eq_nil_iff.mp h.symm).1 (codeUnits_ne_nil _)
  | cons c s ih =>
    cases t with
    | nil => exact absurd (List.append_eq_nil_iff.mp h).1 (codeUnits_ne_nil _)
    | cons d t =>
      obtain ⟨rfl, hrest⟩ := codeUnits_append_inj h
      rw [ih hrest]

/-! ## Reading literals -/

/-- **How far the reading of a literal has come.** -/
inductive Mode where
  /-- Between two characters. -/
  | plain
  /-- Behind a backslash. -/
  | escape
  /-- Behind an escaped zero, which no digit may follow. -/
  | zero
  /-- Behind an escaped carriage return, which takes a line feed along. -/
  | lineEnd
  /-- In an escape by number: how many digits are to come, and the number so far. -/
  | digits (more n : Nat)
  /-- In an escape by number in braces: the number so far. -/
  | braces (n : Option Nat)

namespace Mode

/-- Whether a quote ends the literal here. -/
def mayEnd : Mode → Bool
  | plain | zero | lineEnd => true
  | escape | digits _ _ | braces _ => false

/-- What a character does that belongs to no escape. Of the characters that end lines, those that
scripts do not share with JSON stand for themselves. -/
def take (c : Char) : Option (Units × Mode) :=
  if c = '\\' then some ([], escape)
  else if c = '\n' || c = '\r' then none
  else some (codeUnits c.toNat, plain)

/-- The character that an escaped character stands for. -/
def escaped (c : Char) : Char :=
  if c = 'b' then Char.ofNat 8
  else if c = 't' then Char.ofNat 9
  else if c = 'n' then Char.ofNat 10
  else if c = 'v' then Char.ofNat 11
  else if c = 'f' then Char.ofNat 12
  else if c = 'r' then Char.ofNat 13
  else c

/-- **What the next character of a literal does**: the code units that it adds, and how far the
reading has come then. -/
def step (c : Char) : Mode → Option (Units × Mode)
  | plain => take c
  | zero => if c.isDigit then none else take c
  | lineEnd => if c = '\n' then some ([], plain) else take c
  | escape =>
    if c = 'u' then some ([], digits 4 0)
    else if c = 'x' then some ([], digits 2 0)
    else if c = '0' then some ([0], zero)
    else if c.isDigit then none
    else if c = '\r' then some ([], lineEnd)
    else if c = '\n' || c.toNat = 0x2028 || c.toNat = 0x2029 then some ([], plain)
    else some (codeUnits (escaped c).toNat, plain)
  | digits more n =>
    if c = '\x7b' && more = 4 then some ([], braces none)
    else (Text.hexValue? c).map fun d =>
      if more = 1 then ([n * 16 + d], plain) else ([], digits (more - 1) (n * 16 + d))
  | braces n =>
    if c = '\x7d' then n.map fun n => (codeUnits n, plain)
    else (Text.hexValue? c).bind fun d =>
      let n := n.getD 0 * 16 + d
      if n ≤ 0x10FFFF then some ([], braces (some n)) else none

end Mode

/-- Reads a literal on, up to its closing quote. -/
def literalFrom? (quote : Char) : Mode → Text → Option (Units × Text)
  | _, [] => none
  | m, c :: r =>
    if c = quote && m.mayEnd then some ([], r)
    else (m.step c).bind fun s => (literalFrom? quote s.2 r).map fun x => (s.1 ++ x.1, x.2)

/-- **Reads a string literal** at the front of a text. -/
def stringLiteral? : Text → Option (Units × Text)
  | '"' :: r => literalFrom? '"' .plain r
  | '\'' :: r => literalFrom? '\'' .plain r
  | _ => none

/-! ## Quoted texts -/

section Quoted

variable {m k : Mode} {c : Char} {us : Units}

/-- A character that does not end the literal is read. -/
theorem literalFrom?_step (h : m.step c = some (us, k)) (hend : c ≠ '"' ∨ m.mayEnd = false)
    (r : Text) :
    literalFrom? '"' m (c :: r) = (literalFrom? '"' k r).map fun x => (us ++ x.1, x.2) := by
  have hquote : (decide (c = '"') && m.mayEnd) = false := by
    rcases hend with hc | hm
    · rw [decide_eq_false hc, Bool.false_and]
    · rw [hm, Bool.and_false]
  rw [literalFrom?, hquote, if_neg Bool.false_ne_true, h]
  rfl

/-- A character that adds nothing is read past. -/
theorem literalFrom?_skip (h : m.step c = some ([], k)) (hend : c ≠ '"' ∨ m.mayEnd = false)
    (r : Text) : literalFrom? '"' m (c :: r) = literalFrom? '"' k r := by
  rw [literalFrom?_step h hend]
  exact Option.map_id'

/-- An escape by letter is read. -/
theorem literalFrom?_letter (h : Mode.step c .escape = some (us, .plain)) (r : Text) :
    literalFrom? '"' .plain ('\\' :: c :: r)
      = (literalFrom? '"' .plain r).map fun x => (us ++ x.1, x.2) := by
  rw [literalFrom?_skip (k := .escape) rfl (Or.inl (by decide)), literalFrom?_step h (Or.inr rfl)]

theorem hexDigit_ne_brace : ∀ n, n < 16 → Text.hexDigit n ≠ '\x7b' := by decide

/-- A digit of an escape by number adds to the number. -/
theorem step_digits {d n : Nat} (hd : d < 16) (more : Nat) :
    Mode.step (Text.hexDigit d) (.digits (more + 1) n)
      = some (if more = 0 then ([n * 16 + d], .plain) else ([], .digits more (n * 16 + d))) := by
  unfold Mode.step
  simp only [hexDigit_ne_brace d hd, Text.hexValue?_hexDigit d hd]
  simp

/-- An escape by four digits is read. -/
theorem literalFrom?_hex {a b : Nat} (ha : a < 16) (hb : b < 16) (r : Text) :
    literalFrom? '"' .plain
        ('\\' :: 'u' :: '0' :: '0' :: Text.hexDigit a :: Text.hexDigit b :: r)
      = (literalFrom? '"' .plain r).map fun x => ([a * 16 + b] ++ x.1, x.2) := by
  have hhigh : Mode.step (Text.hexDigit a) (.digits 2 0) = some ([], .digits 1 a) := by
    simpa using step_digits (n := 0) ha 1
  have hlow : Mode.step (Text.hexDigit b) (.digits 1 a) = some ([a * 16 + b], .plain) := by
    simpa using step_digits hb 0
  rw [literalFrom?_skip (k := .escape) rfl (Or.inl (by decide)),
    literalFrom?_skip (k := .digits 4 0) rfl (Or.inr rfl),
    literalFrom?_skip (k := .digits 3 0) rfl (Or.inr rfl),
    literalFrom?_skip (k := .digits 2 0) rfl (Or.inr rfl),
    literalFrom?_skip hhigh (Or.inr rfl), literalFrom?_step hlow (Or.inr rfl)]

/-- **The escape of a character is read as the code units of the character.** -/
theorem literalFrom?_escapeChar (c : Char) (r : Text) :
    literalFrom? '"' .plain (Text.escapeChar c ++ r)
      = (literalFrom? '"' .plain r).map fun x => (codeUnits c.toNat ++ x.1, x.2) := by
  unfold Text.escapeChar
  split_ifs with hquote hslash hback hfeed hnewline hreturn htab hcontrol
  · subst hquote
    exact literalFrom?_letter rfl r
  · subst hslash
    exact literalFrom?_letter rfl r
  · rw [hback]
    exact literalFrom?_letter rfl r
  · rw [hfeed]
    exact literalFrom?_letter rfl r
  · subst hnewline
    exact literalFrom?_letter rfl r
  · subst hreturn
    exact literalFrom?_letter rfl r
  · subst htab
    exact literalFrom?_letter rfl r
  · -- The number of a control character has two digits at most, and is its only code unit.
    have hunit : codeUnits c.toNat = [c.toNat / 16 * 16 + c.toNat % 16] := by
      rw [codeUnits, if_pos (by omega)]
      congr 1
      omega
    rw [hunit]
    exact literalFrom?_hex (by omega) (by omega) r
  · have hstep : Mode.step c .plain = some (codeUnits c.toNat, .plain) := by
      show Mode.take c = _
      rw [Mode.take, if_neg hslash, if_neg (by simp [hnewline, hreturn])]
    exact literalFrom?_step hstep (Or.inl hquote) r

end Quoted

/-- **A quoted text is a literal of a script**, and stands for the code units of the text. -/
theorem stringLiteral?_quote_append (t r : Text) :
    stringLiteral? (Text.quote t ++ r) = some (units t, r) := by
  rw [Text.quote_append]
  show literalFrom? '"' .plain _ = _
  induction t with
  | nil => rfl
  | cons c t ih =>
    rw [List.flatMap_cons, List.append_assoc, literalFrom?_escapeChar, ih]
    rfl

end ModuleHooks.Script
