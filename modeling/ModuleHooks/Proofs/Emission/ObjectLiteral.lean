import ModuleHooks.Proofs.Emission.Decoding
import ModuleHooks.Proofs.Text.StringLiteral
/-!
# What a script gets for a class map

The class map of a stylesheet is emitted as an object of JSON and run as an object literal of a
script. That is read in the same way: every literal in it is one of the script with the same text.
It does not come to the same object, as what a property of a literal does depends on its name. Most
of them become own properties, a later one in place of an earlier one (`evaluate?_apply`), but the
name `__proto__` sets the prototype, unless it stands in brackets. A text is no prototype, so such a
property does nothing.

A class map has each key once, so the object that a module exports has the entries of the class map,
except for one with that key (`exported?_scopedModule`).
-/

namespace ModuleHooks.Script

open Emission (Decoder Reads Refuses expect constant? reads_expect entry)

/-! ## Objects -/

/-- **A property of an object literal**, of which the name and the value are texts. -/
structure Property where
  /-- Whether the name stands in brackets. -/
  isComputed : Bool := false
  /-- The name. -/
  key : Units
  /-- The value. -/
  value : Units

/-- An object, told by its own properties. -/
abbrev Object := Units → Option Units

/-- Whether a property sets the prototype and defines nothing. -/
def Property.setsPrototype (p : Property) : Bool :=
  !p.isComputed && p.key == units "__proto__"

/-- **What a property does to an object.** Setting the prototype to a text does nothing. -/
def Object.define (o : Object) (p : Property) : Object :=
  if p.setsPrototype then o else Function.update o p.key (some p.value)

/-- **The object of a literal.** A literal that sets the prototype twice is an error. -/
def evaluate? (ps : List Property) : Option Object :=
  if 1 < ps.countP Property.setsPrototype then none
  else some (ps.foldl Object.define fun _ => none)

/-! ## Reading object literals -/

/-- Goes past a sign, and what is blank before it. -/
def sign (c : Char) : Decoder Unit := fun t => expect [c] (Json.skipBlanks t)

/-- Reads a string literal. -/
def string : Decoder Units := fun t => stringLiteral? (Json.skipBlanks t)

/-- Reads the name of a property, and whether it stands in brackets. -/
def name : Decoder (Bool × Units) :=
  (do let key ← string
      return (false, key)) <|>
  (do sign '['
      let key ← string
      sign ']'
      return (true, key))

/-- Reads a property. -/
def property : Decoder Property := do
  let (isComputed, key) ← name
  sign ':'
  let value ← string
  return { isComputed, key, value }

/-- Reads properties up to the closing brace. There may be a comma behind the last one. The bound is
on their number. -/
def properties : Nat → Decoder (List Property)
  | 0 => failure
  | n + 1 =>
    (do sign '\x7d'
        return []) <|>
    (do let p ← property
        (do sign ','
            let ps ← properties n
            return p :: ps) <|>
        (do sign '\x7d'
            return [p]))

/-- **Reads an object literal.** -/
def objectLiteral : Decoder (List Property) := do
  sign '\x7b'
  let t ← get
  properties (t.length + 1)

/-- **The object that a module exports**, read off its source: that of the literal which is declared
behind the CSS, if it is what is exported at the end. -/
def exported? (source : Text) : Option Object :=
  let declarations : Decoder (List Property) := do
    let _ ← constant? "__CSS__" string
    constant? "__TOKENS__" objectLiteral
  match declarations source with
  | some (ps, rest) =>
    if Text.endsWith rest "\nexport default __TOKENS__;\n" then evaluate? ps else none
  | none => none

/-! ## What literals come to -/

/-- What one property does to the properties of an object. -/
theorem Object.define_apply (o : Object) (p : Property) (key : Units) :
    o.define p key
      = if !p.setsPrototype && p.key == key then some p.value else o key := by
  unfold define
  cases p.setsPrototype with
  | true => rfl
  | false =>
    by_cases hkey : p.key = key
    · subst hkey
      simp
    · simp [hkey, Function.update_of_ne (Ne.symm hkey)]

/-- **The last property of a name counts**, and none that sets the prototype. -/
theorem foldl_define_apply (ps : List Property) (o : Object) (key : Units) :
    ps.foldl Object.define o key
      = ((ps.reverse.find? fun p => !p.setsPrototype && p.key == key).map Property.value).or
          (o key) := by
  induction ps using List.reverseRecOn generalizing o with
  | nil => rfl
  | append_singleton ps p ih =>
    rw [List.foldl_concat, Object.define_apply, List.reverse_concat, List.find?_cons, ih]
    cases !p.setsPrototype && p.key == key <;> rfl

/-- Of properties with different names, each that does not set the prototype is an own property, and
there is no other. -/
theorem foldl_define_eq_some_iff {ps : List Property} (h : (ps.map Property.key).Nodup)
    (key value : Units) :
    ps.foldl Object.define (fun _ => none) key = some value
      ↔ ∃ p ∈ ps, p.setsPrototype = false ∧ p.key = key ∧ p.value = value := by
  rw [foldl_define_apply, Option.or_none, Option.map_eq_some_iff]
  constructor
  · rintro ⟨p, hp, rfl⟩
    have hkey := List.find?_some hp
    rw [Bool.and_eq_true, Bool.not_eq_true', beq_iff_eq] at hkey
    exact ⟨p, List.mem_reverse.mp (List.mem_of_find?_eq_some hp), hkey.1, hkey.2, rfl⟩
  · rintro ⟨p, hp, hset, rfl, rfl⟩
    cases hfound : ps.reverse.find? fun q => !q.setsPrototype && q.key == p.key with
    | none =>
      have hnot := List.find?_eq_none.mp hfound p (List.mem_reverse.mpr hp)
      simp [hset] at hnot
    | some q =>
      have hq := List.find?_some hfound
      rw [Bool.and_eq_true, beq_iff_eq] at hq
      have hmem := List.mem_reverse.mp (List.mem_of_find?_eq_some hfound)
      exact ⟨q, rfl, congrArg Property.value (List.inj_on_of_nodup_map h hmem hp hq.2)⟩

/-- Properties with different names do not set the prototype twice. -/
theorem evaluate?_of_nodup {ps : List Property} (h : (ps.map Property.key).Nodup) :
    evaluate? ps = some (ps.foldl Object.define fun _ => none) := by
  have hcount : ps.countP Property.setsPrototype ≤ 1 := calc
    ps.countP Property.setsPrototype
      ≤ ps.countP fun p => p.key == units "__proto__" :=
        List.countP_mono_left fun p _ hp => (Bool.and_eq_true_iff.mp hp).2
    _ = (ps.map Property.key).count (units "__proto__") := by
        rw [List.count, List.countP_map]
        rfl
    _ ≤ 1 := List.nodup_iff_count_le_one.mp h _
  rw [evaluate?, if_neg (Nat.not_lt.mpr hcount)]

/-! ## Emitted literals -/

/-- The property that an entry of a class map is emitted as. -/
def Property.ofEntry (e : Text × Text) : Property where
  key := units e.1
  value := units e.2

theorem reads_string (t : Text) : Reads string (Text.quote t) (units t) :=
  stringLiteral?_quote_append t

theorem reads_sign {c : Char} (h : Json.isBlank c = false) : Reads (sign c) [c] () := by
  intro r
  have hblanks : Json.skipBlanks (c :: r) = c :: r := by
    rw [Json.skipBlanks, List.dropWhile_cons, h, if_neg Bool.false_ne_true]
  show expect [c] (Json.skipBlanks (c :: r)) = _
  rw [hblanks]
  exact reads_expect [c] r

/-- **An entry is read as its property.** -/
theorem reads_property (e : Text × Text) : Reads property (entry e) (.ofEntry e) := by
  have hname : Reads name (Text.quote e.1) (false, units e.1) :=
    ((reads_string e.1).map fun key => (false, key)).orElse _
  have hentry : entry e = Text.quote e.1 ++ ([':'] ++ Text.quote e.2) := rfl
  rw [hentry]
  exact hname.bind ((reads_sign rfl).bind ((reads_string e.2).map _))

/-- **Entries are read as their properties**, up to the brace behind them. -/
theorem reads_properties {map : ClassMap} (hne : map ≠ []) {n : Nat} (hn : map.length ≤ n) :
    Reads (properties n) (Text.join "," (map.map entry) ++ ['\x7d']) (map.map .ofEntry) := by
  induction map generalizing n with
  | nil => exact absurd rfl hne
  | cons e map ih =>
    obtain ⟨n, rfl⟩ : ∃ k, n = k + 1 := ⟨n - 1, by rw [List.length_cons] at hn; omega⟩
    -- An entry begins with a quote, and so the properties go on.
    have hopen : ∀ s, Refuses (sign '\x7d') (entry e ++ s) := fun s r => rfl
    cases map with
    | nil =>
      have hcomma : Refuses (sign ',') ['\x7d'] := fun r => rfl
      rw [List.map_singleton, Text.join_singleton]
      refine Refuses.orElse ((hopen _).bind _) ((reads_property e).bind ?_)
      exact Refuses.orElse (hcomma.bind _) ((reads_sign rfl).map fun _ => [Property.ofEntry e])
    | cons f map =>
      have hjoin : Text.join "," ((e :: f :: map).map entry) ++ ['\x7d']
          = entry e ++ ([','] ++ (Text.join "," ((f :: map).map entry) ++ ['\x7d'])) := by
        rw [List.map_cons, Text.join_cons _ (by simp)]
        simp
      have hrest := ih (List.cons_ne_nil f map) (n := n) (by simpa using hn)
      rw [hjoin]
      refine Refuses.orElse ((hopen _).bind _) ((reads_property e).bind ?_)
      exact Reads.orElse ((reads_sign rfl).bind (hrest.map _)) _

/-- **The literal of a class map is an object literal.** -/
theorem reads_objectLiteral (map : ClassMap) :
    Reads objectLiteral (Emission.mapLiteral map) (map.map .ofEntry) := by
  have hliteral : Emission.mapLiteral map
      = ['\x7b'] ++ (Text.join "," (map.map entry) ++ ['\x7d']) := rfl
  rw [hliteral]
  refine (reads_sign rfl).bind fun r => ?_
  show properties _ _ = _
  by_cases hne : map = []
  · subst hne
    rfl
  · refine reads_properties hne ?_ r
    have hlength := Emission.length_le_length_join_entry map
    simp only [List.length_append]
    omega

/-- The module of a scoped stylesheet begins with its declarations and ends with its export. -/
theorem exists_scopedModule_eq (css : Text) (map : ClassMap) (onCss : Option Text) :
    ∃ rest, Emission.scopedModule css map onCss
        = Emission.constant "__CSS__" (Text.quote css)
          ++ Emission.constant "__TOKENS__" (Emission.mapLiteral map) ++ rest
      ∧ Text.endsWith rest "\nexport default __TOKENS__;\n" = true := by
  rw [Emission.scopedModule_eq]
  refine ⟨_, (List.append_assoc _ _ _).symm, List.isSuffixOf_iff_suffix.mpr ?_⟩
  cases onCss with
  | none =>
    refine ⟨['\n'] ++ Emission.injection, ?_⟩
    simp only [Emission.scopedEnd, List.append_assoc]
  | some callback =>
    refine ⟨Emission.globalLookup "__ON_CSS__" callback ++
      (Emission.scopedCallback ++ Emission.injection), ?_⟩
    simp only [Emission.scopedEnd, List.append_assoc]

/-- **What is exported is the object of the class map's literal.** -/
theorem exported?_eq (css : Text) (map : ClassMap) (onCss : Option Text) :
    exported? (Emission.scopedModule css map onCss) = evaluate? (map.map .ofEntry) := by
  obtain ⟨rest, hrest, hend⟩ := exists_scopedModule_eq css map onCss
  have hread := ((reads_string css).constant "__CSS__").bind
    (f := fun _ => constant? "__TOKENS__" objectLiteral)
    ((reads_objectLiteral map).constant "__TOKENS__") rest
  rw [hrest, exported?, hread]
  exact if_pos hend

/-- **A script gets the class map, except for the key `__proto__`.**

The default export of the module of a scoped stylesheet is an object, whatever its CSS and its
callback are. Its own properties are the entries of the class map with another key. So they are
exactly the entries if, and only if, that key is not in the class map. -/
theorem exported?_scopedModule {map : ClassMap} (hkeys : (map.map Prod.fst).Nodup) (css : Text)
    (onCss : Option Text) :
    ∃ o, exported? (Emission.scopedModule css map onCss) = some o
      ∧ (∀ key value, o key = some value ↔
        ∃ e ∈ map, e.1 ≠ "__proto__".toList ∧ units e.1 = key ∧ units e.2 = value)
      ∧ ((∀ key value, o key = some value ↔ ∃ e ∈ map, units e.1 = key ∧ units e.2 = value)
        ↔ "__proto__".toList ∉ map.map Prod.fst) := by
  have hnodup : ((map.map Property.ofEntry).map Property.key).Nodup := by
    have hunits : (map.map Property.ofEntry).map Property.key = (map.map Prod.fst).map units := by
      rw [List.map_map, List.map_map]
      rfl
    rw [hunits]
    exact hkeys.map units_injective
  have hset : ∀ e : Text × Text,
      (Property.ofEntry e).setsPrototype = false ↔ e.1 ≠ "__proto__".toList := by
    intro e
    show (units e.1 == units "__proto__") = false ↔ _
    rw [beq_eq_false_iff_ne, units_injective.ne_iff]
  have hown : ∀ key value, (map.map Property.ofEntry).foldl Object.define (fun _ => none) key
      = some value ↔
        ∃ e ∈ map, e.1 ≠ "__proto__".toList ∧ units e.1 = key ∧ units e.2 = value := by
    intro key value
    rw [foldl_define_eq_some_iff hnodup]
    simp only [List.mem_map, exists_exists_and_eq_and]
    exact exists_congr fun e => and_congr_right fun _ => and_congr_left' (hset e)
  refine ⟨_, by rw [exported?_eq, evaluate?_of_nodup hnodup], hown, ?_⟩
  constructor
  · intro hall hmem
    obtain ⟨e, he, hkey⟩ := List.mem_map.mp hmem
    -- The entry would be an own property, and this is the name of none.
    obtain ⟨e', -, hne, hsame, -⟩ := (hown _ _).mp ((hall _ _).mpr ⟨e, he, rfl, rfl⟩)
    exact hne (units_injective hsame ▸ hkey)
  · intro hnone key value
    rw [hown]
    refine exists_congr fun e => and_congr_right fun he => and_iff_right ?_
    exact fun hkey => hnone (hkey ▸ List.mem_map_of_mem he)

/-- **The law for two classes.** Of the classes `a` and `__proto__` a script gets the first only. -/
theorem exported?_scopedModule_lost :
    let map : ClassMap := [("__proto__".toList, "x-module____proto__".toList),
      ("a".toList, "x-module__a".toList)]
    ∃ o, exported? (Emission.scopedModule [] map (some "jopiloader-oncss".toList)) = some o
      ∧ o (units "a") = some (units "x-module__a") ∧ o (units "__proto__") = none
      ∧ ¬∀ key value, o key = some value ↔ ∃ e ∈ map, units e.1 = key ∧ units e.2 = value := by
  intro map
  have hkeys : (map.map Prod.fst).Nodup := by decide
  obtain ⟨o, ho, hown, hexact⟩ := exported?_scopedModule hkeys [] (some "jopiloader-oncss".toList)
  refine ⟨o, ho, (hown _ _).mpr ⟨("a", "x-module__a"), by decide, by decide, rfl, rfl⟩, ?_,
    fun h => hexact.mp h (by decide)⟩
  refine Option.eq_none_iff_forall_ne_some.mpr fun value hvalue => ?_
  obtain ⟨e, -, hne, hkey, -⟩ := (hown _ _).mp hvalue
  exact hne (units_injective hkey)

end ModuleHooks.Script
