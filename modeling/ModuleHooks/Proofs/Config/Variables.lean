import ModuleHooks.Config.Layers
import ModuleHooks.Proofs.Config.Calls
/-!
# The variables of a configuration

A variable of the environment changes the one key that it is about, if it is about a
key at all and its value is accepted (`Sets`), and else nothing
(`applyVariable_cases`). So of all the variables the last one that sets a key decides
on it (`get_applyVariables_of_lastSets`), and the variables of one key can be
considered apart from the others (`get_applyVariables_about`). Put shortly, an
environment is a run of calls that set values (`value_applyVariables`).
-/

namespace ModuleHooks.Config

variable {env env' before after : Environment} {v w : Text × Text} {c : Config} {k l : Key}

/-- **A variable that sets a key**: it is about the key, and its value is accepted, with
the same effect on every configuration. -/
def Sets (v : Text × Text) (k : Key) (x : k.Value) : Prop :=
  variableKey? v.1 = some k.name ∧ ∀ c : Config, c.set k.name v.2 = .ok (c.put k x)

/-- No variable of an environment sets a key. -/
def Unset (env : Environment) (k : Key) : Prop := ∀ v ∈ env, ∀ x, ¬ Sets v k x

/-- **The last variable that sets a key** gives it a value. -/
def LastSets (env : Environment) (k : Key) (x : k.Value) : Prop :=
  ∃ before v after, env = before ++ v :: after ∧ Sets v k x ∧ Unset after k

theorem sets_iff {x : k.Value} :
    Sets v k x ↔ variableKey? v.1 = some k.name ∧ fromText k v.2 = .ok x := by
  refine and_congr_right fun _ => ⟨fun h => ?_, fun h c => by rw [set_name, h]; rfl⟩
  have hput := h {}
  rw [set_name] at hput
  cases hx : fromText k v.2 with
  | error why => rw [hx] at hput; cases hput
  | ok y =>
    rw [hx] at hput
    have hget : (put {} k y).get k = (put {} k x).get k := congrArg (get · k) (Except.ok.inj hput)
    rw [get_put_self, get_put_self] at hget
    rw [hget]

/-- A variable is about one key. -/
theorem Sets.key_unique {x : k.Value} {y : l.Value} (h : Sets v k x) (h' : Sets v l y) : k = l :=
  Key.name_injective (Option.some.inj (h.1.symm.trans h'.1))

/-! ## One variable -/

/-- A variable that is about the configuration sets its key, or is refused. -/
theorem value_applyVariable {name : Text} (h : variableKey? v.1 = some name) (c : Config) :
    (applyVariable c v).value = (c.set name v.2).toOption.getD c := by
  unfold applyVariable
  simp only [h]
  cases c.set name v.2 <;> rfl

/-- **A variable sets the key that it is about**, or it changes nothing. -/
theorem applyVariable_cases (c : Config) (v : Text × Text) :
    (∃ k x, Sets v k x ∧ (applyVariable c v).value = c.put k x)
      ∨ ((∀ k x, ¬ Sets v k x) ∧ (applyVariable c v).value = c) := by
  cases hkey : variableKey? v.1 with
  | none =>
    refine Or.inr ⟨fun k x h => ?_, by rw [applyVariable, hkey]; rfl⟩
    exact absurd (hkey.symm.trans h.1) (Option.some_ne_none _).symm
  | some name =>
    rw [value_applyVariable hkey]
    rcases set_cases name v.2 with ⟨k, x, rfl, -, hset⟩ | ⟨hrefused, why, hset⟩
    · exact Or.inl ⟨k, x, ⟨hkey, hset⟩, by rw [hset]; rfl⟩
    · refine Or.inr ⟨fun k x h => ?_, by rw [hset]; rfl⟩
      obtain ⟨hk, hx⟩ := sets_iff.mp h
      exact hrefused k x (Option.some.inj (hk.symm.trans hkey)) hx

/-- A variable that sets a key gives it the value. -/
theorem get_applyVariable_of_sets {x : k.Value} (h : Sets v k x) (c : Config) :
    (applyVariable c v).value.get k = x := by
  rcases applyVariable_cases c v with ⟨l, y, hl, hvalue⟩ | ⟨hnone, -⟩
  · obtain rfl := hl.key_unique h
    rw [hvalue, get_put_self]
    exact Except.ok.inj ((sets_iff.mp hl).2.symm.trans (sets_iff.mp h).2)
  · exact absurd h (hnone k x)

/-- A variable that does not set a key leaves it alone. -/
theorem get_applyVariable_of_forall_not (h : ∀ x, ¬ Sets v k x) (c : Config) :
    (applyVariable c v).value.get k = c.get k := by
  rcases applyVariable_cases c v with ⟨l, y, hl, hvalue⟩ | ⟨-, hvalue⟩
  · rw [hvalue, get_put_of_ne]
    rintro rfl
    exact h y hl
  · rw [hvalue]

/-- What a variable does to a key depends on nothing but that key. -/
theorem get_applyVariable_congr {d : Config} (h : c.get k = d.get k) (v : Text × Text) :
    (applyVariable c v).value.get k = (applyVariable d v).value.get k := by
  by_cases hv : ∃ x, Sets v k x
  · obtain ⟨x, hx⟩ := hv
    rw [get_applyVariable_of_sets hx, get_applyVariable_of_sets hx]
  · rw [not_exists] at hv
    rw [get_applyVariable_of_forall_not hv, get_applyVariable_of_forall_not hv, h]

/-! ## All variables -/

theorem value_applyVariables_cons (c : Config) (v : Text × Text) (env : Environment) :
    (applyVariables c (v :: env)).value = (applyVariables (applyVariable c v).value env).value :=
  rfl

theorem value_applyVariables_append (c : Config) (before after : Environment) :
    (applyVariables c (before ++ after)).value
      = (applyVariables (applyVariables c before).value after).value := by
  induction before generalizing c with
  | nil => rfl
  | cons v before ih =>
    rw [List.cons_append, value_applyVariables_cons, value_applyVariables_cons, ih]

/-- The call that a variable makes, if it is about the configuration. -/
def call? (v : Text × Text) : Option Call := (variableKey? v.1).map fun key => ⟨key, v.2⟩

/-- **The variables of an environment are a run of calls.** Those that are refused are passed
over. -/
theorem value_applyVariables (c : Config) (env : Environment) :
    (applyVariables c env).value = afterAll c (env.filterMap call?) := by
  induction env generalizing c with
  | nil => rfl
  | cons v env ih =>
    rw [value_applyVariables_cons, ih]
    cases hkey : variableKey? v.1 with
    | none =>
      have hcall : call? v = none := by rw [call?, hkey, Option.map_none]
      have hvalue : (applyVariable c v).value = c := by
        rw [applyVariable, hkey]
        rfl
      rw [List.filterMap_cons_none hcall, hvalue]
    | some key =>
      have hcall : call? v = some ⟨key, v.2⟩ := by rw [call?, hkey, Option.map_some]
      rw [List.filterMap_cons_some hcall, value_applyVariable hkey, afterAll, afterAll,
        List.foldl_cons, after, assign_run]

/-- A key that no variable sets keeps its value. -/
theorem get_applyVariables_of_unset (h : Unset env k) (c : Config) :
    (applyVariables c env).value.get k = c.get k := by
  induction env generalizing c with
  | nil => rfl
  | cons v env ih =>
    rw [value_applyVariables_cons, ih fun w hw => h w (List.mem_cons_of_mem v hw),
      get_applyVariable_of_forall_not (h v List.mem_cons_self)]

/-- **The last variable that sets a key decides on it.** -/
theorem get_applyVariables_of_lastSets {x : k.Value} (h : LastSets env k x) (c : Config) :
    (applyVariables c env).value.get k = x := by
  obtain ⟨before, v, after, rfl, hv, hafter⟩ := h
  rw [value_applyVariables_append, value_applyVariables_cons, get_applyVariables_of_unset hafter,
    get_applyVariable_of_sets hv]

/-- There is a last variable that sets a key, or none does. -/
theorem unset_or_exists_lastSets (env : Environment) (k : Key) :
    Unset env k ∨ ∃ x, LastSets env k x := by
  induction env with
  | nil => exact Or.inl fun v hv => absurd hv List.not_mem_nil
  | cons v env ih =>
    rcases ih with hunset | ⟨x, before, w, after, rfl, hw, hafter⟩
    · by_cases hv : ∃ x, Sets v k x
      · obtain ⟨x, hx⟩ := hv
        exact Or.inr ⟨x, [], v, env, rfl, hx, hunset⟩
      · exact Or.inl (List.forall_mem_cons.mpr ⟨not_exists.mp hv, hunset⟩)
    · exact Or.inr ⟨x, v :: before, w, after, rfl, hw, hafter⟩

/-- A variable that sets nothing might as well not be there. -/
theorem value_applyVariables_of_forall_not (h : ∀ k x, ¬ Sets v k x) (c : Config) :
    (applyVariables c (before ++ v :: after)).value
      = (applyVariables c (before ++ after)).value := by
  have hv : ∀ c, (applyVariable c v).value = c := fun c =>
    ext_get fun k => get_applyVariable_of_forall_not (h k) c
  rw [value_applyVariables_append, value_applyVariables_cons, hv, ← value_applyVariables_append]

/-! ## The order of variables -/

/-- The variables that are about one key, or the others, in their order. -/
def about (key : Option Text) (env : Environment) : Environment :=
  env.filter fun v => variableKey? v.1 == key

/-- **The variables of a key decide on it alone**, whatever stands between them. -/
theorem get_applyVariables_about (k : Key) (env : Environment) {c d : Config}
    (h : c.get k = d.get k) :
    (applyVariables c env).value.get k
      = (applyVariables d (about (some k.name) env)).value.get k := by
  -- A variable that is left out here is about another key, so it changes only the left side
  -- and there not the value of this one.
  induction env generalizing c d with
  | nil => exact h
  | cons v env ih =>
    rw [value_applyVariables_cons]
    by_cases hkey : variableKey? v.1 = some k.name
    · rw [about, List.filter_cons_of_pos (by simpa using hkey), value_applyVariables_cons]
      exact ih (get_applyVariable_congr h v)
    · rw [about, List.filter_cons_of_neg (by simpa using hkey)]
      refine ih ((get_applyVariable_of_forall_not (fun x hx => hkey hx.1) c).trans h)

/-- **Variables of different keys may change places.** -/
theorem value_applyVariables_congr (h : ∀ key, about key env = about key env') (c : Config) :
    (applyVariables c env).value = (applyVariables c env').value :=
  ext_get fun k => by
    rw [get_applyVariables_about k env rfl, h, ← get_applyVariables_about k env' rfl]

theorem lookup?_cons_of_eq (v : Text × Text) (env : Environment) :
    Text.lookup? v.1 (v :: env) = some v.2 := by
  rw [Text.lookup?, List.find?_cons_of_pos (by simp), Option.map_some]

theorem lookup?_cons_of_ne {name : Text} (h : v.1 ≠ name) (env : Environment) :
    Text.lookup? name (v :: env) = Text.lookup? name env := by
  rw [Text.lookup?, List.find?_cons_of_neg (by simpa using h), Text.lookup?]

/-- A variable that is about no key is found among those that are not. -/
theorem lookup?_about {name : Text} (hname : variableKey? name = none) (env : Environment) :
    Text.lookup? name (about none env) = Text.lookup? name env := by
  induction env with
  | nil => rfl
  | cons v env ih =>
    by_cases hkey : variableKey? v.1 = none
    · rw [about, List.filter_cons_of_pos (by simpa using hkey), ← about]
      by_cases hv : v.1 = name
      · rw [← hv, lookup?_cons_of_eq, lookup?_cons_of_eq]
      · rw [lookup?_cons_of_ne hv, lookup?_cons_of_ne hv, ih]
    · have hv : v.1 ≠ name := fun hv => hkey (hv ▸ hname)
      rw [about, List.filter_cons_of_neg (by simpa using hkey), ← about, ih,
        lookup?_cons_of_ne hv]

/-- The place of the global file is told by variables that are about no key. -/
theorem globalPath?_about (env : Environment) : globalPath? (about none env) = globalPath? env := by
  rw [globalPath?, Environment.configDirectory?, lookup?_about (by decide),
    lookup?_about (by decide)]
  rfl

theorem globalPath?_congr (h : about none env = about none env') :
    globalPath? env = globalPath? env' := by
  rw [← globalPath?_about, h, globalPath?_about]

/-- A variable that is about some key has no part in the place of the global file. -/
theorem globalPath?_append_cons {key : Text} (h : variableKey? v.1 = some key) :
    globalPath? (before ++ v :: after) = globalPath? (before ++ after) := by
  refine globalPath?_congr ?_
  rw [about, about, List.filter_append, List.filter_append, List.filter_cons_of_neg (by simp [h])]

end ModuleHooks.Config
