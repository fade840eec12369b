import ModuleHooks.Config.Setting
import ModuleHooks.Proofs.Config.Fields
/-!
# Runs of calls

Values are set one call after the other, and whoever makes the calls may pass over the ones that
are refused. That is safe because a call is all or nothing: the value is read before the field is
written, so what is refused has written nothing (`after_of_isRefused`), and what is accepted has
written the field of its key (`assign_cases`).

A call neither reads the configuration to decide whether it is accepted nor to tell the value. So
of a whole run, each field remembers the last accepted call for its key and nothing else
(`get_afterAll`), and runs that have the same accepted calls for each key are the same
(`set_calls`).
-/

namespace ModuleHooks

/-- **A call** that sets a value: the name of a key, and the textual form of a value. -/
structure Call where
  /-- What is said to be the name of a key. -/
  key : Text
  /-- What is said to be a value of it. -/
  value : Text
  deriving DecidableEq, Repr

/-- **The names that a key can be set to**, for the keys that cannot be set to any text. -/
def Key.choices : Key → Option (List Text)
  | .classNaming => some ["hashed".toList, "plain".toList]
  | .localsConvention => some ["as-is".toList, "camel-case-only".toList]
  | .assetExport => some ["empty-object".toList, "path".toList]
  | .onCssImported | .onCss | .outputDirs | .sourceDir => none

namespace Call

/-- **A call that is refused**: its key is unknown, or its value is not one of the names that the
key can be set to. -/
inductive IsRefused (call : Call) : Prop where
  | unknown : (∀ k : Key, k.name ≠ call.key) → IsRefused call
  | noChoice {k : Key} {names : List Text} :
    k.name = call.key → k.choices = some names → call.value ∉ names → IsRefused call

/-- **A call that is accepted for a key**: the key is that of the call, and the value is one of
the names that it can be set to, if it has such names. -/
def IsAcceptedFor (k : Key) (call : Call) : Prop :=
  call.key = k.name ∧ ∀ names ∈ k.choices, call.value ∈ names

instance (k : Key) : DecidablePred (IsAcceptedFor k) := fun _ =>
  inferInstanceAs (Decidable (_ ∧ _))

/-- A call is accepted for some key, or refused. -/
theorem isRefused_iff {call : Call} : call.IsRefused ↔ ∀ k, ¬call.IsAcceptedFor k := by
  constructor
  · rintro (hunknown | ⟨hkey, hnames, hvalue⟩) k haccepted
    · exact hunknown k haccepted.1.symm
    · obtain rfl := Key.name_injective (hkey.trans haccepted.1)
      exact hvalue (haccepted.2 _ hnames)
  · intro h
    -- A known key that does not accept the call has names, and the value is none of them.
    by_cases hknown : ∃ k : Key, k.name = call.key
    · obtain ⟨k, hkey⟩ := hknown
      have hchoices : ¬∀ names ∈ k.choices, call.value ∈ names := fun hall => h k ⟨hkey.symm, hall⟩
      simp only [not_forall] at hchoices
      obtain ⟨names, hnames, hvalue⟩ := hchoices
      exact .noChoice hkey hnames hvalue
    · exact .unknown fun k hkey => hknown ⟨k, hkey⟩

end Call

namespace Config

variable {c d : Config} {call : Call} {calls calls' : List Call} {k l : Key}

/-! ## One call -/

/-- **Setting in place.** What is written stays written: nothing is taken back when the call fails
later on. -/
def assign (call : Call) : ExceptT ConfigError (StateM Config) Unit :=
  match Key.ofName? call.key with
  | none => throw (.unknownKey call.key)
  | some k => do
    let x ← liftExcept (fromText k call.value)
    modify fun c => c.put k x

/-- **The configuration after a call**, whatever became of the call. -/
def after (c : Config) (call : Call) : Config := ((assign call).run.run c).2

/-- **Setting in place is setting**: a call fails where `set` does, and it leaves the
configuration that `set` gives, or the one there was. -/
theorem assign_run (c : Config) (call : Call) :
    (assign call).run.run c
      = ((c.set call.key call.value).map fun _ => (),
          (c.set call.key call.value).toOption.getD c) := by
  unfold assign set
  cases hname : Key.ofName? call.key with
  | none => rfl
  | some k =>
    dsimp only
    rw [setKey_eq]
    cases fromText k call.value <;> rfl

/-! ## Which calls are accepted -/

/-- A choice is made by its name, among choices that are all listed. -/
theorem exists_choice_iff {α : Type} {name : α → Text} {all : List α} {key : Key} {t : Text} :
    (∃ a, choice name all key t = .ok a) ↔ t ∈ all.map name := by
  unfold choice
  rw [List.mem_map]
  cases hfind : all.find? fun a => name a == t with
  | some a =>
    refine iff_of_true ⟨a, rfl⟩ ⟨a, List.mem_of_find?_eq_some hfind, ?_⟩
    simpa using List.find?_some hfind
  | none =>
    refine iff_of_false (fun ⟨a, ha⟩ => by cases ha) fun ⟨a, ha, hname⟩ => ?_
    exact List.find?_eq_none.mp hfind a ha (beq_iff_eq.mpr hname)

/-- **A text gives a key a value** exactly if it is one of the key's names, for the keys that have
them. -/
theorem exists_fromText_iff {t : Text} :
    (∃ x, fromText k t = .ok x) ↔ ∀ names ∈ k.choices, t ∈ names := by
  have hchoice : ∀ {names : List Text}, k.choices = some names →
      ((∃ x, fromText k t = .ok x) ↔ t ∈ names) →
      ((∃ x, fromText k t = .ok x) ↔ ∀ names ∈ k.choices, t ∈ names) := by
    intro names hnames h
    rw [h, hnames]
    exact ⟨fun ht names' hnames' => Option.some.inj hnames' ▸ ht, fun hall => hall names rfl⟩
  cases k with
  | classNaming => exact hchoice rfl exists_choice_iff
  | localsConvention => exact hchoice rfl exists_choice_iff
  | assetExport => exact hchoice rfl exists_choice_iff
  | onCssImported | onCss | outputDirs | sourceDir =>
    exact iff_of_true ⟨_, rfl⟩ fun names hnames => nomatch hnames

/-- **An accepted call writes the field of its key**, with a value that does not depend on the
configuration. A call that is not accepted writes nothing. -/
theorem assign_cases (call : Call) :
    (∃ k x, call.IsAcceptedFor k ∧ ∀ c, (assign call).run.run c = (.ok (), c.put k x))
      ∨ (call.IsRefused ∧ ∃ why, ∀ c, (assign call).run.run c = (.error why, c)) := by
  rcases set_cases call.key call.value with ⟨k, x, hk, hx, hset⟩ | ⟨hrefused, why, hset⟩
  · refine Or.inl ⟨k, x, ⟨hk.symm, exists_fromText_iff.mp ⟨x, hx⟩⟩, fun c => ?_⟩
    rw [assign_run, hset]
    rfl
  · refine Or.inr ⟨Call.isRefused_iff.mpr fun k h => ?_, why, fun c => ?_⟩
    · obtain ⟨x, hx⟩ := exists_fromText_iff.mpr h.2
      exact hrefused k x h.1.symm hx
    · rw [assign_run, hset]
      rfl

/-- **A refused call leaves everything as it was.** -/
theorem after_of_isRefused (h : call.IsRefused) (c : Config) : after c call = c := by
  rcases assign_cases call with ⟨k, x, haccepted, -⟩ | ⟨-, why, hrun⟩
  · exact absurd haccepted (Call.isRefused_iff.mp h k)
  · rw [after, hrun]

/-- A call that is not accepted for a key leaves the key alone. -/
theorem get_after_of_not (h : ¬call.IsAcceptedFor k) (c : Config) :
    (after c call).get k = c.get k := by
  rcases assign_cases call with ⟨l, x, haccepted, hrun⟩ | ⟨hrefused, -⟩
  · rw [after, hrun, get_put_of_ne]
    rintro rfl
    exact h haccepted
  · rw [after_of_isRefused hrefused]

/-- A call that is accepted for a key gives it a value of its own. -/
theorem get_after_congr (h : call.IsAcceptedFor k) (c d : Config) :
    (after c call).get k = (after d call).get k := by
  rcases assign_cases call with ⟨l, x, haccepted, hrun⟩ | ⟨hrefused, -⟩
  · obtain rfl := Key.name_injective (h.1.symm.trans haccepted.1)
    rw [after, after, hrun, hrun, get_put_self, get_put_self]
  · exact absurd h (Call.isRefused_iff.mp hrefused k)

/-! ## A run -/

/-- **The configuration after a run of calls**, each of which may be refused. -/
def afterAll (c : Config) (calls : List Call) : Config := calls.foldl after c

/-- The calls of a run that are accepted for a key, in their order. -/
def accepted (k : Key) (calls : List Call) : List Call :=
  calls.filter fun call => decide (call.IsAcceptedFor k)

theorem afterAll_concat (c : Config) (calls : List Call) (call : Call) :
    afterAll c (calls ++ [call]) = after (afterAll c calls) call := by
  rw [afterAll, List.foldl_concat, afterAll]

theorem accepted_concat (k : Key) (calls : List Call) (call : Call) :
    accepted k (calls ++ [call])
      = accepted k calls ++ if call.IsAcceptedFor k then [call] else [] := by
  simp only [accepted, List.filter_append, List.filter_singleton, Bool.cond_decide]

/-- **Of a run, a field remembers the last accepted call for its key.** -/
theorem get_afterAll (c : Config) (calls : List Call) (k : Key) :
    (afterAll c calls).get k = (((accepted k calls).getLast?.map (after c)).getD c).get k := by
  -- From the end of the run: the last call decides, or it is as if it had not been made.
  induction calls using List.reverseRecOn with
  | nil => rfl
  | append_singleton calls call ih =>
    rw [afterAll_concat, accepted_concat]
    split_ifs with h
    · rw [List.getLast?_concat, Option.map_some, Option.getD_some]
      exact get_after_congr h (afterAll c calls) c
    · rw [List.append_nil, get_after_of_not h, ih]

/-- Runs with the same accepted calls for each key are the same. -/
theorem afterAll_congr (h : ∀ k, accepted k calls' = accepted k calls) (c : Config) :
    afterAll c calls' = afterAll c calls :=
  ext_get fun k => by rw [get_afterAll, get_afterAll, h]

/-- **Runs of calls.** Setting in place is what `set` does: it fails where `set` fails, with the
configuration that there was, and else leaves the one that `set` gives. It fails exactly if the
key is unknown or the value is none of the names that the key can be set to, and it never changes
a field but that of its key.

After a run, each field has the value that the last accepted call for its key gives the
configuration with which the run began, or the value that it had there if no call for it was
accepted. So runs with the same accepted calls for each key, in the same order, end alike. -/
theorem set_calls (c : Config) (calls : List Call) :
    (∀ d call, (assign call).run.run d
        = ((d.set call.key call.value).map fun _ => (),
            (d.set call.key call.value).toOption.getD d))
      ∧ (∀ d call, (∃ why, ((assign call).run.run d).1 = .error why) ↔ call.IsRefused)
      ∧ (∀ d call, call.IsRefused → after d call = d)
      ∧ (∀ d call k, call.key ≠ k.name → (after d call).get k = d.get k)
      ∧ (∀ k, (afterAll c calls).get k
          = (((accepted k calls).getLast?.map (after c)).getD c).get k)
      ∧ (∀ calls', (∀ k, accepted k calls' = accepted k calls) →
          afterAll c calls' = afterAll c calls) := by
  refine ⟨assign_run, fun d call => ?_, fun d call h => after_of_isRefused h d,
    fun d call k hkey => get_after_of_not (fun h => hkey h.1) d, get_afterAll c calls,
    fun calls' h => afterAll_congr h c⟩
  rcases assign_cases call with ⟨k, x, haccepted, hrun⟩ | ⟨hrefused, why, hrun⟩
  · refine iff_of_false (fun ⟨why, hwhy⟩ => ?_) fun h => Call.isRefused_iff.mp h k haccepted
    rw [hrun] at hwhy
    cases hwhy
  · exact iff_of_true ⟨why, by rw [hrun]⟩ hrefused

/-- Two calls are refused; the third changes what the fourth changes back. -/
example :
    afterAll {} [⟨"class-naming".toList, "random".toList⟩, ⟨"unknown".toList, "1".toList⟩,
        ⟨"class-naming".toList, "plain".toList⟩, ⟨"class-naming".toList, "hashed".toList⟩,
        ⟨"on-css".toList, " show ".toList⟩]
      = { onCss := some "show".toList } := by
  decide

end Config

end ModuleHooks
