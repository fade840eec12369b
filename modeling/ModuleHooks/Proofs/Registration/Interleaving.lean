import Mathlib.Data.Fin.VecNotation
import Mathlib.Data.List.Pairwise
import Mathlib.Logic.Function.Basic
import Mathlib.Logic.Relation
import ModuleHooks.Registration
/-!
# Calls that interleave

Whoever installs the library takes the guard first and registers afterwards, and
nothing keeps another call from running in between. What a host receives is
therefore not a property of one call but of all calls on one guard, in every
order in which their steps can fall.

This module puts any number of calls on one guard, each for a host and a
configuration of its own, together with readers who ask whether the guard is
taken, and lets them take their steps in any order. Taking the guard is one
step and registering another; a call that runs alone does what `install` does
(`reaches_install`).

All that is claimed follows from the *stage* such a system is in (`Stage`). The
guard is free and nobody has begun; or one call holds it and has yet to
register; or that call has registered and returned. Every other call has not
begun or has been turned away, and no step leads back.
-/

namespace ModuleHooks.Registration

variable {ι : Type} [DecidableEq ι]

/-! ## The system -/

/-- **A call that installs the library**: the kind of its host and its
configuration. -/
structure Call where
  /-- The way into the host. -/
  kind : HostKind
  /-- The configuration to register with. -/
  config : Config

/-- **How far a call is.** -/
inductive Progress where
  /-- It has not tried to take the guard. -/
  | waiting
  /-- It has taken the guard and has yet to register. -/
  | holding
  /-- It has returned, and has said whether it installed the library. -/
  | returned (installed : Bool)
  deriving DecidableEq, Repr

/-- Whether a call that is this far has taken the guard. -/
def Progress.hasTaken : Progress → Bool
  | .waiting => false
  | .holding => true
  | .returned installed => installed

/-- **The next step of a call**: it takes the guard or is turned away; if it
took the guard, it registers. A call that has returned has none. -/
def Call.step (call : Call) (guard : Registration) : Progress → Option (Registration × Progress)
  | .waiting =>
    match guard.take with
    | (guard, true) => some (guard, .holding)
    | (guard, false) => some (guard, .returned false)
  | .holding => some (guard.deliver call.kind call.config, .returned true)
  | .returned _ => none

/-- **Calls on one guard**, somewhere on their way, with the answers of those
who asked whether it is taken. -/
structure System (ι : Type) where
  /-- The guard, and what the hosts have received. -/
  guard : Registration := {}
  /-- How far each call is. -/
  progress : ι → Progress := fun _ => .waiting
  /-- What the readers were told, first to last. -/
  answers : List Bool := []

/-- The system after a call has come to a new point. -/
def System.advance (s : System ι) (i : ι) (guard : Registration) (p : Progress) : System ι :=
  { s with guard, progress := Function.update s.progress i p }

/-- The system after a reader has asked. -/
def System.ask (s : System ι) : System ι := { s with answers := s.answers ++ [s.guard.registered] }

/-- **One step of the system**: some call takes its next step, or somebody
asks. -/
inductive Step (calls : ι → Call) : System ι → System ι → Prop where
  /-- A step of a call. -/
  | call {s : System ι} {i : ι} {guard : Registration} {p : Progress}
      (next : (calls i).step s.guard (s.progress i) = some (guard, p)) :
      Step calls s (s.advance i guard p)
  /-- A question. -/
  | ask {s : System ι} : Step calls s s.ask

/-- **A run of the system**: any number of steps. -/
abbrev Reaches (calls : ι → Call) : System ι → System ι → Prop :=
  Relation.ReflTransGen (Step calls)

variable {calls : ι → Call} {s t : System ι}

@[simp] theorem System.progress_advance_self (i : ι) (guard : Registration) (p : Progress) :
    (s.advance i guard p).progress i = p := by
  show Function.update s.progress i p i = p
  rw [Function.update_self]

theorem System.progress_advance_of_ne {i j : ι} (h : j ≠ i) (guard : Registration)
    (p : Progress) : (s.advance i guard p).progress j = s.progress j := by
  show Function.update s.progress i p j = s.progress j
  rw [Function.update_of_ne h]

/-! ## What a call can do -/

/-- **The steps of a call**, each with the state of the guard that it needs. -/
theorem Call.step_cases {call : Call} {guard guard' : Registration} {p p' : Progress}
    (h : call.step guard p = some (guard', p')) :
    (p = .waiting ∧ guard.registered = false ∧ p' = .holding
        ∧ guard' = { guard with registered := true })
      ∨ (p = .waiting ∧ guard.registered = true ∧ p' = .returned false ∧ guard' = guard)
      ∨ (p = .holding ∧ p' = .returned true ∧ guard' = guard.deliver call.kind call.config) := by
  cases p with
  | waiting =>
    unfold step take at h
    by_cases hguard : guard.registered = true
    · rw [if_pos hguard] at h
      cases h
      exact Or.inr (Or.inl ⟨rfl, hguard, rfl, rfl⟩)
    · rw [if_neg hguard] at h
      cases h
      exact Or.inl ⟨rfl, Bool.eq_false_iff.mpr hguard, rfl, rfl⟩
  | holding =>
    cases h
    exact Or.inr (Or.inr ⟨rfl, rfl, rfl⟩)
  | returned installed => cases h

/-- **A call that runs alone installs the library** as `install` does: from
wherever the others are, the system comes to the guard that `install` leaves
and the answer that it gives. -/
theorem reaches_install {i : ι} (h : s.progress i = .waiting) :
    Reaches calls s (s.advance i (s.guard.install (calls i).kind (calls i).config).value.1
      (.returned (s.guard.install (calls i).kind (calls i).config).value.2)) := by
  unfold install take
  by_cases hguard : s.guard.registered = true
  · rw [if_pos hguard]
    refine .single (.call ?_)
    rw [h, Call.step, take, if_pos hguard]
    rfl
  · rw [if_neg hguard]
    -- Nobody runs between the two steps.
    have htake : Step calls s (s.advance i { s.guard with registered := true } .holding) := by
      refine .call ?_
      rw [h, Call.step, take, if_neg hguard]
    have hdeliver : Step calls (s.advance i { s.guard with registered := true } .holding)
        ((s.advance i { s.guard with registered := true } .holding).advance i
          (deliver { s.guard with registered := true } (calls i).kind (calls i).config)
          (.returned true)) := by
      refine .call ?_
      rw [System.progress_advance_self]
      rfl
    have htwice : (s.advance i { s.guard with registered := true } .holding).advance i
          (deliver { s.guard with registered := true } (calls i).kind (calls i).config)
          (.returned true)
        = s.advance i (deliver { s.guard with registered := true } (calls i).kind
          (calls i).config) (.returned true) := by
      unfold System.advance
      rw [Function.update_idem]
    rw [htwice] at hdeliver
    exact .tail (.single htake) hdeliver

/-! ## Stages -/

/-- **The stage a system is in.** -/
inductive Stage (calls : ι → Call) (s : System ι) : Prop where
  /-- The guard is free, and no call has begun. -/
  | free (untaken : s.guard.registered = false) (nothing : s.guard.received = [])
      (begin : ∀ i, s.progress i = .waiting)
  /-- One call holds the guard. Nothing has been received. -/
  | held (i : ι) (taken : s.guard.registered = true) (nothing : s.guard.received = [])
      (holds : s.progress i = .holding)
      (others : ∀ j, j ≠ i → s.progress j = .waiting ∨ s.progress j = .returned false)
  /-- One call has registered. -/
  | installed (i : ι) (taken : s.guard.registered = true)
      (received : s.guard.received = [((calls i).kind, (calls i).config)])
      (done : s.progress i = .returned true)
      (others : ∀ j, j ≠ i → s.progress j = .waiting ∨ s.progress j = .returned false)

omit [DecidableEq ι] in
theorem stage_start : Stage calls {} := .free rfl rfl fun _ => rfl

/-- **A step leads from stage to stage.** -/
theorem Stage.step (h : Stage calls s) (hstep : Step calls s t) : Stage calls t := by
  cases hstep with
  | ask =>
    -- Who asks changes nothing but the answers.
    cases h with
    | free untaken nothing begin => exact .free untaken nothing begin
    | held i taken nothing holds others => exact .held i taken nothing holds others
    | installed i taken received done others => exact .installed i taken received done others
  | @call k guard p next =>
    have hothers : ∀ i, i ≠ k →
        (∀ j, j ≠ i → s.progress j = .waiting ∨ s.progress j = .returned false) →
        p = .returned false → ∀ j, j ≠ i →
          (s.advance k guard p).progress j = .waiting
            ∨ (s.advance k guard p).progress j = .returned false := by
      intro i hik others hp j hji
      by_cases hjk : j = k
      · rw [hjk, System.progress_advance_self]
        exact Or.inr hp
      · rw [System.progress_advance_of_ne hjk]
        exact others j hji
    cases h with
    | free untaken nothing begin =>
      obtain ⟨-, -, rfl, rfl⟩ | ⟨-, htaken, -, -⟩ | ⟨hholding, -, -⟩ := Call.step_cases next
      · refine .held k rfl nothing (System.progress_advance_self _ _ _) fun j hj => ?_
        rw [System.progress_advance_of_ne hj]
        exact Or.inl (begin j)
      · rw [untaken] at htaken
        cases htaken
      · rw [begin k] at hholding
        cases hholding
    | held i taken nothing holds others =>
      obtain ⟨-, huntaken, -, -⟩ | ⟨hwaiting, -, hp, rfl⟩ | ⟨hholding, rfl, rfl⟩ :=
        Call.step_cases next
      · rw [taken] at huntaken
        cases huntaken
      · -- A call that comes second is turned away; it is not the holder.
        have hik : i ≠ k := by
          rintro rfl
          rw [holds] at hwaiting
          cases hwaiting
        refine .held i taken nothing ?_ (hothers i hik others hp)
        rw [System.progress_advance_of_ne hik]
        exact holds
      · -- Only the holder can register.
        have hki : k = i := by
          by_contra hki
          rcases others k hki with hk | hk <;> rw [hholding] at hk <;> cases hk
        subst hki
        refine .installed k taken ?_ (System.progress_advance_self _ _ _) fun j hj => ?_
        · show s.guard.received ++ [_] = _
          rw [nothing, List.nil_append]
        · rw [System.progress_advance_of_ne hj]
          exact others j hj
    | installed i taken received done others =>
      obtain ⟨-, huntaken, -, -⟩ | ⟨hwaiting, -, hp, rfl⟩ | ⟨hholding, -, -⟩ :=
        Call.step_cases next
      · rw [taken] at huntaken
        cases huntaken
      · have hik : i ≠ k := by
          rintro rfl
          rw [done] at hwaiting
          cases hwaiting
        refine .installed i taken received ?_ (hothers i hik others hp)
        rw [System.progress_advance_of_ne hik]
        exact done
      · by_cases hki : k = i
        · rw [hki, done] at hholding
          cases hholding
        · rcases others k hki with hk | hk <;> rw [hholding] at hk <;> cases hk

/-- **Every system that can be reached is in one of the stages.** -/
theorem stage_of_reaches (h : Reaches calls {} s) : Stage calls s := by
  induction h with
  | refl => exact stage_start
  | tail _ hstep ih => exact ih.step hstep

/-! ## What follows from the stage -/

omit [DecidableEq ι] in
/-- A call that has not begun or was turned away has not taken the guard. -/
theorem hasTaken_of_others {i j : ι}
    (others : ∀ j, j ≠ i → s.progress j = .waiting ∨ s.progress j = .returned false)
    (h : (s.progress j).hasTaken = true) : j = i := by
  by_contra hji
  rcases others j hji with hj | hj <;> rw [hj] at h <;> cases h

omit [DecidableEq ι] in
/-- **Only one call takes the guard.** -/
theorem Stage.eq_of_hasTaken (h : Stage calls s) {i j : ι} (hi : (s.progress i).hasTaken = true)
    (hj : (s.progress j).hasTaken = true) : i = j := by
  cases h with
  | free untaken nothing begin =>
    rw [begin i] at hi
    cases hi
  | held k taken nothing holds others =>
    exact (hasTaken_of_others others hi).trans (hasTaken_of_others others hj).symm
  | installed k taken received done others =>
    exact (hasTaken_of_others others hi).trans (hasTaken_of_others others hj).symm

omit [DecidableEq ι] in
/-- **What was received comes from the call that took the guard.** -/
theorem Stage.received_cases (h : Stage calls s) :
    s.guard.received = []
      ∨ ∃ i, s.guard.received = [((calls i).kind, (calls i).config)]
        ∧ s.progress i = .returned true := by
  cases h with
  | free untaken nothing begin => exact Or.inl nothing
  | held i taken nothing holds others => exact Or.inl nothing
  | installed i taken received done others => exact Or.inr ⟨i, received, done⟩

omit [DecidableEq ι] in
/-- Whoever has returned leaves the guard taken, whatever the call said. -/
theorem Stage.registered_of_returned (h : Stage calls s) {i : ι} {installed : Bool}
    (hi : s.progress i = .returned installed) : s.guard.registered = true := by
  cases h with
  | free untaken nothing begin =>
    rw [begin i] at hi
    cases hi
  | held k taken nothing holds others => exact taken
  | installed k taken received done others => exact taken

omit [DecidableEq ι] in
/-- **When all have returned, one of them has installed the library.** -/
theorem Stage.exists_of_returned [Nonempty ι] (h : Stage calls s)
    (hall : ∀ i, ∃ installed, s.progress i = .returned installed) :
    ∃ i, s.progress i = .returned true ∧ (∀ j, j ≠ i → s.progress j = .returned false)
      ∧ s.guard.received = [((calls i).kind, (calls i).config)] := by
  cases h with
  | free untaken nothing begin =>
    obtain ⟨i⟩ := ‹Nonempty ι›
    obtain ⟨installed, hi⟩ := hall i
    rw [begin i] at hi
    cases hi
  | held i taken nothing holds others =>
    obtain ⟨installed, hi⟩ := hall i
    rw [holds] at hi
    cases hi
  | installed i taken received done others =>
    refine ⟨i, done, fun j hj => ?_, received⟩
    obtain ⟨installed, hj'⟩ := hall j
    refine (others j hj).resolve_left fun hwaiting => ?_
    rw [hwaiting] at hj'
    cases hj'

/-! ## What readers are told -/

/-- **The guard is not given back** by a step. -/
theorem registered_of_step (hstep : Step calls s t) (h : s.guard.registered = true) :
    t.guard.registered = true := by
  cases hstep with
  | ask => exact h
  | call next =>
    obtain ⟨-, -, -, rfl⟩ | ⟨-, -, -, rfl⟩ | ⟨-, -, rfl⟩ := Call.step_cases next
    · rfl
    · exact h
    · exact h

/-- **A guard that is taken stays taken**, and all who ask from then on are told so. -/
theorem registered_of_reaches (hrun : Reaches calls s t) (h : s.guard.registered = true) :
    t.guard.registered = true
      ∧ ∃ later, t.answers = s.answers ++ later ∧ ∀ a ∈ later, a = true := by
  induction hrun with
  | refl => exact ⟨h, [], (List.append_nil _).symm, by simp⟩
  | @tail u _ _ hstep ih =>
    obtain ⟨htaken, later, hlater, hall⟩ := ih
    refine ⟨registered_of_step hstep htaken, ?_⟩
    cases hstep with
    | call next => exact ⟨later, hlater, hall⟩
    | ask =>
      refine ⟨later ++ [u.guard.registered], ?_, fun a ha => ?_⟩
      · show u.answers ++ _ = _
        rw [hlater, List.append_assoc]
      · rcases List.mem_append.mp ha with ha | ha
        · exact hall a ha
        · rw [List.mem_singleton.mp ha, htaken]

/-- **No reader is told that the guard is free after another was told that it
is taken.** -/
theorem pairwise_answers (hrun : Reaches calls {} s) :
    s.answers.Pairwise (fun earlier later => earlier = true → later = true)
      ∧ (true ∈ s.answers → s.guard.registered = true) := by
  -- The second half carries the induction: a new answer is no worse than the old ones.
  induction hrun with
  | refl => exact ⟨.nil, fun h => nomatch h⟩
  | @tail u _ _ hstep ih =>
    obtain ⟨hpairwise, htaken⟩ := ih
    cases hstep with
    | call next => exact ⟨hpairwise, fun h => registered_of_step (.call next) (htaken h)⟩
    | ask =>
      constructor
      · refine List.pairwise_append.mpr ⟨hpairwise, List.pairwise_singleton _ _, ?_⟩
        intro earlier hearlier later hlater htrue
        rw [List.mem_singleton.mp hlater]
        exact htaken (htrue ▸ hearlier)
      · intro h
        rcases List.mem_append.mp h with h | h
        · exact htaken h
        · exact (List.mem_singleton.mp h).symm

/-! ## Once -/

/-- **The library is installed once**, in whatever order the steps of any
number of calls fall.

Let `s` be a state that the calls can reach from a new guard. The hosts have
received one registration together at most, and it has the kind and the
configuration of the one call that took the guard. No two calls have said that
they installed the library. No reader is told that the guard is free after
another was told that it is taken, and once a call has returned, with either
answer, the guard is taken and everybody who asks is told so. When all calls
have returned, and there was one, exactly one of them has said that it installed
the library, and its registration is the only one. -/
theorem install_once (hrun : Reaches calls {} s) :
    (s.guard.received.length ≤ 1
        ∧ ∀ x ∈ s.guard.received, ∃ i, x = ((calls i).kind, (calls i).config)
          ∧ (s.progress i).hasTaken = true
          ∧ ∀ j, (s.progress j).hasTaken = true → j = i)
      ∧ (∀ i j, s.progress i = .returned true → s.progress j = .returned true → i = j)
      ∧ s.answers.Pairwise (fun earlier later => earlier = true → later = true)
      ∧ (∀ t, Reaches calls s t → s.guard.registered = true → t.guard.registered = true)
      ∧ (∀ i installed, s.progress i = .returned installed → s.guard.registered = true
        ∧ ∀ t, Reaches calls s t →
          ∃ later, t.answers = s.answers ++ later ∧ ∀ a ∈ later, a = true)
      ∧ (Nonempty ι → (∀ i, ∃ installed, s.progress i = .returned installed) →
        ∃ i, s.progress i = .returned true ∧ (∀ j, j ≠ i → s.progress j = .returned false)
          ∧ s.guard.received = [((calls i).kind, (calls i).config)]) := by
  have hstage : Stage calls s := stage_of_reaches hrun
  refine ⟨?_, ?_, (pairwise_answers hrun).1, ?_, ?_, ?_⟩
  · rcases hstage.received_cases with hnothing | ⟨i, hreceived, hi⟩
    · simp [hnothing]
    · have htaken : (s.progress i).hasTaken = true := by
        rw [hi]
        rfl
      refine ⟨by rw [hreceived]; exact le_rfl, fun x hx => ?_⟩
      rw [hreceived, List.mem_singleton] at hx
      exact ⟨i, hx, htaken, fun j hj => hstage.eq_of_hasTaken hj htaken⟩
  · intro i j hi hj
    exact hstage.eq_of_hasTaken (by rw [hi]; rfl) (by rw [hj]; rfl)
  · intro t hlater htaken
    exact (registered_of_reaches hlater htaken).1
  · intro i installed hi
    have htaken : s.guard.registered = true := hstage.registered_of_returned hi
    exact ⟨htaken, fun t hlater => (registered_of_reaches hlater htaken).2⟩
  · intro _ hall
    exact hstage.exists_of_returned hall

/-- Two calls for hosts of both kinds. -/
def rivals : Fin 2 → Call := ![⟨.hooks, {}⟩, ⟨.plugin, { assetExport := .path }⟩]

/-- **The law at a race**: the plugin's call takes the guard, and the other call
runs and is turned away before the plugin is registered. One reader asks before
all this and one in the middle of it. -/
theorem install_once_rivals :
    ∃ s : System (Fin 2), Reaches rivals {} s ∧ s.answers = [false, true]
      ∧ (∃ i, s.progress i = .returned true ∧ (∀ j, j ≠ i → s.progress j = .returned false)
        ∧ s.guard.received = [((rivals i).kind, (rivals i).config)])
      ∧ s.guard.received = [(.plugin, { assetExport := .path })] := by
  let taken : Registration := { registered := true }
  let asked : System (Fin 2) := System.ask {}
  let held := asked.advance 1 taken .holding
  let refused := (held.advance 0 taken (.returned false)).ask
  let final := refused.advance 1 (taken.deliver .plugin { assetExport := .path }) (.returned true)
  have hrun : Reaches rivals {} final := by
    have hheld : Reaches rivals {} held := .tail (.single .ask) (.call rfl)
    have hrefused : Reaches rivals {} refused := .tail (.tail hheld (.call rfl)) .ask
    exact .tail hrefused (.call rfl)
  obtain ⟨-, -, -, -, -, hall⟩ := install_once hrun
  refine ⟨final, hrun, rfl, hall ⟨0⟩ ?_, rfl⟩
  intro i
  match i with
  | 0 => exact ⟨false, rfl⟩
  | 1 => exact ⟨true, rfl⟩

end ModuleHooks.Registration
