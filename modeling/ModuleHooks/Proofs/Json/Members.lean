import ModuleHooks.Proofs.Json.Skimming
/-!
# The members of a document

A document is read for some of its members, and these are read with more care than the others. A
member that is looked at may therefore spoil the document, but it has no other influence on what
is read: the members are in the same places whatever the document is read for, and each is read
from its own place (`exists_places`).

The places are told by skimming. In place of every value stands the text that it is read from.
-/

namespace ModuleHooks.Json

variable {n : Nat} {t r : Text}

/-! ## Places -/

/-- Skims a value, and gives back the text that it stands at the front of. -/
def placeOf (n : Nat) : Reader := fun t => (value? false n t).map fun x => (.string t, x.2)

theorem placeOf_eq_some_iff {w : Json} :
    placeOf n t = some (w, r) ↔ w = .string t ∧ ∃ v, value? false n t = some (v, r) := by
  rw [placeOf]
  constructor
  · intro h
    obtain ⟨⟨v, r'⟩, hv, heq⟩ := Option.map_eq_some_iff.mp h
    cases heq
    exact ⟨rfl, v, hv⟩
  · rintro ⟨rfl, v, hv⟩
    rw [hv, Option.map_some]

/-- **A member read in its place**: with the name that stands there, and the value that its
reader reads there. -/
def ReadIn (value : Text → Reader) (place m : Text × Json) : Prop :=
  m.1 = place.1 ∧ ∃ s r, place.2 = .string s ∧ value place.1 s = some (m.2, r)

/-- Whoever reads a member comes to the place that skimming its value comes to. -/
theorem ReadIn.read {value : Text → Reader} {key s : Text} {m : Text × Json} {v : Json}
    (h : ReadIn value (key, .string s) m) (hvalue : Follows n (value key) (value? false n))
    (hs : s.length ≤ n) (hskimmed : value? false n s = some (v, r)) :
    m.1 = key ∧ value key s = some (m.2, r) := by
  obtain ⟨hname, s', r', hplace, hread⟩ := h
  obtain rfl : s = s' := Json.string.inj hplace
  obtain ⟨-, v', hv'⟩ := hvalue s _ r' hs hread
  obtain rfl : r = r' := congrArg Prod.snd (Option.some.inj (hskimmed.symm.trans hv'))
  exact ⟨hname, hread⟩

/-- **Members are read in their places**, and these are told by skimming. -/
theorem members?_iff_places {value : Text → Reader}
    (hvalue : ∀ key, Follows n (value key) (value? false n)) {k : Nat} (ht : t.length ≤ n)
    {ms : List (Text × Json)} :
    members? true value k t = some (ms, r) ↔
      ∃ places, members? true (fun _ => placeOf n) k t = some (places, r)
        ∧ List.Forall₂ (ReadIn value) places ms := by
  induction k generalizing t ms with
  | zero => exact iff_of_false (fun h => nomatch h) (fun ⟨_, h, _⟩ => nomatch h)
  | succ k ih =>
    have hblank := length_skipBlanks_le t
    constructor
    · intro h
      obtain ⟨key, s₁, s₂, v, s₃, hkey, hs₂, hv, hrest⟩ := members?_succ_iff.mp h
      have hle₁ := (literal?_false hkey).1
      have hlt₂ := length_of_skipBlanks_eq hs₂
      obtain ⟨hle₃, v', hv'⟩ := hvalue key s₂ v s₃ (by omega) hv
      have hplace : placeOf n s₂ = some (.string s₂, s₃) :=
        placeOf_eq_some_iff.mpr ⟨rfl, v', hv'⟩
      have hread : ReadIn value (key, .string s₂) (key, v) := ⟨rfl, s₂, s₃, rfl, hv⟩
      obtain ⟨s', ms', hs, hms, rfl⟩ | ⟨hs, rfl⟩ := hrest
      · have hlt := length_of_skipBlanks_eq hs
        obtain ⟨places, hplaces, hall⟩ := (ih (by omega)).mp hms
        exact ⟨_, members?_succ_iff.mpr
          ⟨key, s₁, s₂, _, s₃, hkey, hs₂, hplace, Or.inl ⟨s', places, hs, hplaces, rfl⟩⟩,
          .cons hread hall⟩
      · exact ⟨_, members?_succ_iff.mpr
          ⟨key, s₁, s₂, _, s₃, hkey, hs₂, hplace, Or.inr ⟨hs, rfl⟩⟩, .cons hread .nil⟩
    · rintro ⟨places, h, hall⟩
      obtain ⟨key, s₁, s₂, w, s₃, hkey, hs₂, hw, hrest⟩ := members?_succ_iff.mp h
      have hle₁ := (literal?_false hkey).1
      have hlt₂ := length_of_skipBlanks_eq hs₂
      obtain ⟨rfl, v', hv'⟩ := placeOf_eq_some_iff.mp hw
      have hle₂ : s₂.length ≤ n := by omega
      obtain ⟨s', places', hs, hplaces, rfl⟩ | ⟨hs, rfl⟩ := hrest
      · cases hall with
        | @cons _ m _ ms' hm hall =>
          obtain ⟨rfl, hv⟩ := hm.read (hvalue key) hle₂ hv'
          have hle₃ := (hvalue _ s₂ _ s₃ hle₂ hv).1
          have hlt := length_of_skipBlanks_eq hs
          exact members?_succ_iff.mpr ⟨m.1, s₁, s₂, m.2, s₃, hkey, hs₂, hv,
            Or.inl ⟨s', ms', hs, (ih (by omega)).mpr ⟨places', hplaces, hall⟩, rfl⟩⟩
      · cases hall with
        | @cons _ m _ ms' hm hall =>
          obtain ⟨rfl, hv⟩ := hm.read (hvalue key) hle₂ hv'
          cases hall
          exact members?_succ_iff.mpr ⟨m.1, s₁, s₂, m.2, s₃, hkey, hs₂, hv, Or.inr ⟨hs, rfl⟩⟩

/-! ## Documents -/

/-- How a member is read in a document that is read for the members with wanted names. -/
def memberReader (n : Nat) (wanted : List Text) (name : Text) : Reader :=
  if List.elem name wanted then value? true (levels - 1) else value? false n

theorem memberReader_follows (wanted : List Text) (name : Text) :
    Follows n (memberReader n wanted name) (value? false n) := by
  unfold memberReader
  split_ifs
  · exact value?_follows _ n
  · exact value?_follows n n

/-- Reads the rest of an object, behind its opening brace. -/
def body? (value : Text → Reader) (t : Text) : Option (List (Text × Json) × Text) :=
  match skipBlanks t with
  | '\x7d' :: r => some ([], r)
  | s => members? true value s.length s

theorem body?_of_close {value : Text → Reader} (h : skipBlanks t = '\x7d' :: r) :
    body? value t = some ([], r) := by
  rw [body?, h]
  rfl

theorem body?_of_open {value : Text → Reader} (h : ∀ r, skipBlanks t = '\x7d' :: r → False) :
    body? value t = members? true value (skipBlanks t).length (skipBlanks t) := by
  unfold body?
  split
  · next r hr => exact (h r hr).elim
  · rfl

theorem body?_iff_places {value : Text → Reader}
    (hvalue : ∀ key, Follows n (value key) (value? false n)) (ht : t.length ≤ n)
    {ms : List (Text × Json)} :
    body? value t = some (ms, r) ↔
      ∃ places, body? (fun _ => placeOf n) t = some (places, r)
        ∧ List.Forall₂ (ReadIn value) places ms := by
  have hblank := length_skipBlanks_le t
  unfold body?
  split
  · next s hs =>
    constructor
    · intro h
      cases h
      exact ⟨[], rfl, .nil⟩
    · rintro ⟨places, h, hall⟩
      cases h
      cases hall
      rfl
  · exact members?_iff_places hvalue (by omega)

/-- What has a brace at its front is an object. -/
theorem nested?_of_brace {s : Text} (h : skipBlanks t = '\x7b' :: s) (item : Reader)
    (member : Text → Reader) :
    nested? true item member t = (body? member s).map fun x => (.object x.1, x.2) := by
  unfold nested?
  split
  · next s' heq =>
    obtain rfl : s = s' := (List.cons.inj (h.symm.trans heq)).2
    split
    · next r hr =>
      rw [body?_of_close hr]
      rfl
    · next hopen => rw [body?_of_open hopen]
  · next heq => exact absurd (h.symm.trans heq) (by simp)
  · next hbrace _ => exact (hbrace s h).elim

/-- A document that is an object is read as one, whatever it is read for. -/
theorem parse?_of_brace {s : Text} (h : skipBlanks t = '\x7b' :: s) (wanted : List Text)
    {v : Json} : parse? wanted t = some v ↔ ∃ ms r, body? (memberReader t.length wanted) s
      = some (ms, r) ∧ skipBlanks r = [] ∧ v = .object ms := by
  have hreader : (fun name => if List.elem name wanted then value? true (levels - 1)
      else value? false t.length) = memberReader t.length wanted := rfl
  simp only [parse?, hreader, nested?_of_brace h]
  cases hbody : body? (memberReader t.length wanted) s with
  | none => simp
  | some x =>
    obtain ⟨ms, r⟩ := x
    simp only [Option.map_some, Option.some.injEq, Prod.mk.injEq]
    constructor
    · intro h
      split_ifs at h with hr
      exact ⟨ms, r, ⟨rfl, rfl⟩, hr, (Option.some.inj h).symm⟩
    · rintro ⟨_, _, ⟨rfl, rfl⟩, hr, rfl⟩
      rw [if_pos hr]

/-- **A document that holds an object.** -/
def IsObject (t : Text) : Prop := ∃ members, parse? [] t = some (.object members)

instance : DecidablePred IsObject := fun t =>
  decidable_of_iff ((parse? [] t).any (fun v => match v with
    | .object _ => true
    | _ => false) = true) <| by
    rw [IsObject, Option.any_eq_true]
    constructor
    · rintro ⟨v, hv, h⟩
      split at h
      · next members => exact ⟨members, hv⟩
      · cases h
    · rintro ⟨members, h⟩
      exact ⟨_, h, rfl⟩

theorem exists_brace_of_isObject (h : IsObject t) : ∃ s, skipBlanks t = '\x7b' :: s := by
  obtain ⟨ms, hparse⟩ := h
  unfold parse? at hparse
  dsimp only at hparse
  split at hparse
  · next v r hnested =>
    split_ifs at hparse with hr
    cases hparse
    unfold nested? at hnested
    split at hnested
    · next s hs => exact ⟨s, hs⟩
    · split at hnested
      · cases hnested
      · obtain ⟨x, -, heq⟩ := Option.map_eq_some_iff.mp hnested
        cases heq
    · exact absurd hnested (simple?_ne_object ms r)
  · cases hparse

/-- **The members of a document have their places in it**, whatever it is read for: it is read
exactly if every member can be read in its place, and then it holds these members. -/
theorem exists_places (h : IsObject t) : ∃ places : List (Text × Json),
    ∀ wanted v, parse? wanted t = some v ↔
      ∃ ms, v = .object ms ∧ List.Forall₂ (ReadIn (memberReader t.length wanted)) places ms := by
  obtain ⟨s, hs⟩ := exists_brace_of_isObject h
  have hlt := length_of_skipBlanks_eq hs
  obtain ⟨ms₀, hms₀⟩ := h
  obtain ⟨ms₀, r₀, hbody, hblank, -⟩ := (parse?_of_brace hs []).mp hms₀
  obtain ⟨places, hplaces, -⟩ := (body?_iff_places (memberReader_follows []) hlt.le).mp hbody
  refine ⟨places, fun wanted v => (parse?_of_brace hs wanted).trans ?_⟩
  constructor
  · rintro ⟨ms, r, hbody, -, rfl⟩
    obtain ⟨places', hplaces', hall⟩ :=
      (body?_iff_places (memberReader_follows wanted) hlt.le).mp hbody
    obtain ⟨rfl, rfl⟩ := Prod.mk.inj (Option.some.inj (hplaces.symm.trans hplaces'))
    exact ⟨ms, rfl, hall⟩
  · rintro ⟨ms, rfl, hall⟩
    exact ⟨ms, r₀, (body?_iff_places (memberReader_follows wanted) hlt.le).mpr
      ⟨places, hplaces, hall⟩, hblank, rfl⟩

/-! ## One member at a time -/

/-- All members are read if each of them is. -/
theorem exists_forall₂_readIn {value : Text → Reader} {places : List (Text × Json)}
    (h : ∀ place ∈ places, ∃ m, ReadIn value place m) :
    ∃ ms, List.Forall₂ (ReadIn value) places ms := by
  induction places with
  | nil => exact ⟨[], .nil⟩
  | cons place places ih =>
    obtain ⟨hplace, hplaces⟩ := List.forall_mem_cons.mp h
    obtain ⟨m, hm⟩ := hplace
    obtain ⟨ms, hms⟩ := ih hplaces
    exact ⟨m :: ms, .cons hm hms⟩

theorem exists_readIn_of_mem {value : Text → Reader} {places ms : List (Text × Json)}
    (h : List.Forall₂ (ReadIn value) places ms) {place : Text × Json} (hmem : place ∈ places) :
    ∃ m, ReadIn value place m := by
  induction h with
  | nil => cases hmem
  | cons hm _ ih =>
    rcases List.mem_cons.mp hmem with rfl | hmem
    · exact ⟨_, hm⟩
    · exact ih hmem

/-- A member is read as its own reader says, whatever the readers of the others are. -/
theorem ReadIn.congr {value value' : Text → Reader} {place m : Text × Json}
    (h : ReadIn value place m) (heq : value' place.1 = value place.1) : ReadIn value' place m := by
  obtain ⟨hname, s, r, hs, hread⟩ := h
  exact ⟨hname, s, r, hs, heq ▸ hread⟩

theorem ReadIn.unique {value : Text → Reader} {place m m' : Text × Json}
    (h : ReadIn value place m) (h' : ReadIn value place m') : m = m' := by
  obtain ⟨hname, s, r, hs, hread⟩ := h
  obtain ⟨hname', s', r', hs', hread'⟩ := h'
  obtain rfl : s = s' := Json.string.inj (hs.symm.trans hs')
  obtain ⟨hvalue, -⟩ := Prod.mk.inj (Option.some.inj (hread.symm.trans hread'))
  exact Prod.ext (hname.trans hname'.symm) hvalue

/-- **The members of a name** are the same for all who read them alike. -/
theorem filter_congr_of_readIn {value value' : Text → Reader} {name : Text}
    (heq : value' name = value name) {places ms ms' : List (Text × Json)}
    (h : List.Forall₂ (ReadIn value) places ms) (h' : List.Forall₂ (ReadIn value') places ms') :
    (ms'.filter fun m => m.1 == name) = ms.filter fun m => m.1 == name := by
  induction h generalizing ms' with
  | nil =>
    cases h'
    rfl
  | @cons place m places ms hm hms ih =>
    cases h' with
    | @cons _ m' _ ms' hm' hms' =>
      rw [List.filter_cons, List.filter_cons, ih hms']
      have hname : m'.1 = m.1 := hm'.1.trans hm.1.symm
      by_cases hwanted : m.1 = name
      · obtain rfl : m' = m := (hm'.congr (by rw [← hm.1, hwanted, heq])).unique hm
        rfl
      · rw [if_neg (by rw [hname, beq_iff_eq]; exact hwanted), if_neg (by simpa using hwanted)]

theorem memberReader_of_mem {wanted : List Text} {name : Text} (h : name ∈ wanted) :
    memberReader n wanted name = memberReader n [name] name := by
  rw [memberReader, memberReader, if_pos (List.elem_eq_true_of_mem h),
    if_pos (List.elem_eq_true_of_mem List.mem_cons_self)]

theorem memberReader_of_not_mem {wanted : List Text} {name : Text} (h : name ∉ wanted) :
    memberReader n wanted name = memberReader n [] name := by
  rw [memberReader, memberReader, if_neg (by simpa using h), if_neg (by simp)]

/-- **A document can be read for some members** exactly if it can be read for each of them. -/
theorem exists_parse?_iff (h : IsObject t) {wanted : List Text} :
    (∃ v, parse? wanted t = some v) ↔ ∀ name ∈ wanted, ∃ v, parse? [name] t = some v := by
  obtain ⟨places, hplaces⟩ := exists_places h
  have hskimmed : ∀ place ∈ places, ∃ m, ReadIn (memberReader t.length []) place m := by
    obtain ⟨ms, hms⟩ := h
    obtain ⟨ms', -, hall⟩ := (hplaces [] _).mp hms
    exact fun place hmem => exists_readIn_of_mem hall hmem
  constructor
  · rintro ⟨v, hv⟩ name hname
    obtain ⟨ms, -, hall⟩ := (hplaces wanted v).mp hv
    have hread : ∀ place ∈ places, ∃ m, ReadIn (memberReader t.length [name]) place m :=
      fun place hmem => by
        by_cases heq : place.1 = name
        · obtain ⟨m, hm⟩ := exists_readIn_of_mem hall hmem
          exact ⟨m, hm.congr (by rw [heq, memberReader_of_mem hname])⟩
        · obtain ⟨m, hm⟩ := hskimmed place hmem
          exact ⟨m, hm.congr (memberReader_of_not_mem (by simpa using heq))⟩
    obtain ⟨ms', hms'⟩ := exists_forall₂_readIn hread
    exact ⟨_, (hplaces [name] _).mpr ⟨ms', rfl, hms'⟩⟩
  · intro hwanted
    have hread : ∀ place ∈ places, ∃ m, ReadIn (memberReader t.length wanted) place m :=
      fun place hmem => by
        by_cases hname : place.1 ∈ wanted
        · obtain ⟨v, hv⟩ := hwanted _ hname
          obtain ⟨ms, -, hall⟩ := (hplaces _ v).mp hv
          obtain ⟨m, hm⟩ := exists_readIn_of_mem hall hmem
          exact ⟨m, hm.congr (memberReader_of_mem hname)⟩
        · obtain ⟨m, hm⟩ := hskimmed place hmem
          exact ⟨m, hm.congr (memberReader_of_not_mem hname)⟩
    obtain ⟨ms, hms⟩ := exists_forall₂_readIn hread
    exact ⟨_, (hplaces wanted _).mpr ⟨ms, rfl, hms⟩⟩

/-- **What a document says under a name** does not depend on what else it is read for. -/
theorem exists_parse?_singleton (h : IsObject t) {wanted : List Text} {v : Json}
    (hparse : parse? wanted t = some v) {name : Text} (hname : name ∈ wanted) :
    ∃ ms ms', v = .object ms ∧ parse? [name] t = some (.object ms')
      ∧ (ms'.filter fun m => m.1 == name) = ms.filter fun m => m.1 == name := by
  obtain ⟨places, hplaces⟩ := exists_places h
  obtain ⟨v', hv'⟩ := (exists_parse?_iff h).mp ⟨v, hparse⟩ name hname
  obtain ⟨ms, rfl, hall⟩ := (hplaces wanted v).mp hparse
  obtain ⟨ms', rfl, hall'⟩ := (hplaces [name] v').mp hv'
  exact ⟨ms, ms', rfl, hv', filter_congr_of_readIn (memberReader_of_mem hname).symm hall hall'⟩

end ModuleHooks.Json
