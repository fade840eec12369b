import ModuleHooks.Proofs.Url.FileForm
/-!
# The trail of a reference

Two readers walk along the segments of an absolute path. The reader of URLs keeps a stack on which
every segment counts, empty ones included, and on which a drive letter is never taken away by `..`.
The reader of paths counts names only. The *trail* is between the two: it counts empty segments, as
the stack does, and it holds the segments as they are written, as the names do. As long as each
segment does to the trail what it does to the names (`Follows`), the three stay together
(`tracks_foldl`).

All this is about segments in which nothing is encoded that has to be decoded first (`Untripled`).
-/

namespace ModuleHooks

/-! ## Texts without triples -/

namespace Percent

/-- **A text in which no percent sign begins a triple.** -/
def Untripled (t : Text) : Prop :=
  ∀ before after, t = before ++ '%' :: after → ¬ BeginsWithDigits after

theorem untripled_nil : Untripled [] := fun before after h =>
  absurd h.symm (List.append_ne_nil_of_right_ne_nil before (List.cons_ne_nil _ after))

theorem untripled_cons_iff {c : Char} {t : Text} :
    Untripled (c :: t) ↔ (c = '%' → ¬ BeginsWithDigits t) ∧ Untripled t := by
  constructor
  · intro h
    exact ⟨fun hc => h [] t (by rw [hc]; rfl),
      fun before after ht => h (c :: before) after (by rw [ht, List.cons_append])⟩
  · rintro ⟨hc, ht⟩ before after heq
    cases before with
    | nil =>
      obtain ⟨hpercent, rfl⟩ := List.cons_eq_cons.mp heq
      exact hc hpercent
    | cons _ before => exact ht before after (List.cons_eq_cons.mp heq).2

instance : DecidablePred BeginsWithDigits
  | [] => isFalse id
  | [_] => isFalse id
  | a :: b :: _ =>
    inferInstanceAs (Decidable ((Text.hexValue? a).isSome ∧ (Text.hexValue? b).isSome))

instance decidableUntripled : (t : Text) → Decidable (Untripled t)
  | [] => isTrue untripled_nil
  | _ :: t =>
    haveI := decidableUntripled t
    decidable_of_iff' _ untripled_cons_iff

theorem BeginsWithDigits.append {t : Text} (h : BeginsWithDigits t) (more : Text) :
    BeginsWithDigits (t ++ more) := by
  match t, h with
  | _ :: _ :: _, h => exact h

theorem Untripled.of_isInfix {s t : Text} (h : Untripled t) (hs : s <:+: t) : Untripled s := by
  obtain ⟨pre, post, rfl⟩ := hs
  rintro before after rfl hdigits
  refine h (pre ++ before) (after ++ post) ?_ (hdigits.append post)
  simp only [List.append_assoc, List.cons_append]

/-- **A text without triples decodes to itself.** -/
theorem decode_of_untripled {t : Text} (h : Untripled t) : decode t = t := by
  have hbytes : decodeBytes t = Text.utf8 t := by
    induction t with
    | nil => exact decodeBytes_nil
    | cons c t ih =>
      obtain ⟨hpercent, ht⟩ := untripled_cons_iff.mp h
      rw [Text.utf8_cons, ← ih ht]
      by_cases hc : c = '%'
      · subst hc
        exact decodeBytes_percent (hpercent rfl)
      · exact decodeBytes_cons hc t
  rw [decode, hbytes, Text.decodeLossy_utf8]

end Percent

namespace Url

open ModuleHooks.Path

variable {t u : Text} {trail stack segments : List Text}

/-! ## Segments as they are written -/

/-- A segment of a reference, in encoded form. -/
abbrev encoded (t : Text) : Text := Percent.encode Percent.pathSet t

theorem decode_encoded (h : Percent.Untripled t) : Percent.decode (encoded t) = t := by
  rw [Percent.decode_encode_of_keeps keeps_pathSet, Percent.decode_of_untripled h]

theorem isHere_encoded (h : Percent.Untripled t) : isHere (encoded t) = true ↔ t = ['.'] := by
  constructor
  · intro hhere
    rw [← decode_encoded h, decode_of_isHere hhere]
  · rintro rfl
    decide

theorem isAbove_encoded (h : Percent.Untripled t) :
    isAbove (encoded t) = true ↔ t = ['.', '.'] := by
  constructor
  · intro habove
    rw [← decode_encoded h, decode_of_isAbove habove]
  · rintro rfl
    decide

/-- Nothing in a drive letter is encoded. -/
theorem encoded_of_isDrive (h : isDrive t = true) : encoded t = t := by
  obtain ⟨a, b, rfl, ha, hb⟩ := exists_of_isDrive h
  have hletter := segmentSet_of_isPlain (isPlain_of_isAlpha ha)
  refine Percent.encode_eq_self (List.forall_mem_cons.mpr
    ⟨(Bool.or_eq_false_iff.mp hletter).1, List.forall_mem_singleton.mpr ?_⟩)
  rcases hb with rfl | rfl <;> decide

theorem isDrive_encoded (h : Percent.Untripled t) : isDrive (encoded t) = isDrive t := by
  rw [Bool.eq_iff_iff]
  constructor
  · intro hdrive
    obtain ⟨a, b, heq, ha, hb⟩ := exists_of_isDrive hdrive
    have hpercent : '%' ∉ encoded t := by
      rw [heq]
      intro hmem
      rcases List.mem_cons.mp hmem with rfl | hmem
      · exact absurd ha (by decide)
      · obtain rfl := List.mem_singleton.mp hmem
        rcases hb with hb | hb <;> exact absurd hb (by decide)
    have hsame : t = encoded t := by
      rw [← Percent.decode_eq_self hpercent, decode_encoded h]
    rw [hsame]
    exact hdrive
  · intro hdrive
    rw [encoded_of_isDrive hdrive, hdrive]

/-- **A segment of a stack**: the encoded form of a segment that is no dots. -/
structure IsEncoded (u : Text) : Prop where
  exists_eq : ∃ t, u = encoded t ∧ Percent.Untripled t
  notMem : '/' ∉ Percent.decode u
  ne_dots : Percent.decode u ≠ ['.'] ∧ Percent.decode u ≠ ['.', '.']

theorem isEncoded_encoded (h : Percent.Untripled t) (hslash : '/' ∉ t) (hhere : t ≠ ['.'])
    (habove : t ≠ ['.', '.']) : IsEncoded (encoded t) where
  exists_eq := ⟨t, rfl, h⟩
  notMem := by rwa [decode_encoded h]
  ne_dots := by rw [decode_encoded h]; exact ⟨hhere, habove⟩

theorem isEncoded_nil : IsEncoded [] :=
  isEncoded_encoded (t := []) Percent.untripled_nil List.not_mem_nil (by decide) (by decide)

theorem IsEncoded.eq_nil (h : IsEncoded u) (hnil : Percent.decode u = []) : u = [] := by
  obtain ⟨t, rfl, ht⟩ := h.exists_eq
  rw [decode_encoded ht] at hnil
  rw [hnil]
  rfl

theorem IsEncoded.isDrive_eq (h : IsEncoded u) : isDrive u = isDrive (Percent.decode u) := by
  obtain ⟨t, rfl, ht⟩ := h.exists_eq
  rw [decode_encoded ht, isDrive_encoded ht]

/-! ## Trails -/

/-- The trail after one more segment: `..` takes the innermost one away, empty or not. -/
def onward (trail : List Text) (s : Text) : List Text := if s = ['.'] then trail else climb trail s

/-- **A segment that does to the trail what it does to the names.** If it leads up, either a name is
taken away that is no drive letter, or there is no name yet. If there is none and it is a drive
letter, it is in normal form. -/
structure Follows (trail : List Text) (s : Text) : Prop where
  above : s = ['.', '.'] →
    (∀ t ∈ trail, t = []) ∨ ∃ t ∈ trail.head?, t ≠ [] ∧ isDrive t = false
  drive : (∀ t ∈ trail, t = []) → isDrive s = true → isNormalDrive s = true

instance (trail : List Text) (s : Text) : Decidable (Follows trail s) :=
  decidable_of_iff
    ((s = ['.', '.'] → (∀ t ∈ trail, t = []) ∨ ∃ t ∈ trail.head?, t ≠ [] ∧ isDrive t = false)
      ∧ ((∀ t ∈ trail, t = []) → isDrive s = true → isNormalDrive s = true))
    ⟨fun h => ⟨h.1, h.2⟩, fun h => ⟨h.above, h.drive⟩⟩

/-- **Segments that follow a trail**, each of them when its turn comes. -/
def IsFollowed (trail segments : List Text) : Prop :=
  ∀ before s after, segments = before ++ s :: after → Follows (before.foldl onward trail) s

theorem isFollowed_cons {s : Text} : IsFollowed trail (s :: segments) ↔
    Follows trail s ∧ IsFollowed (onward trail s) segments := by
  constructor
  · intro h
    exact ⟨h [] s segments rfl,
      fun before t after heq => h (s :: before) t after (by rw [heq]; rfl)⟩
  · rintro ⟨hs, hrest⟩ before t after heq
    cases before with
    | nil =>
      obtain ⟨rfl, -⟩ := List.cons_eq_cons.mp heq
      exact hs
    | cons _ before =>
      obtain ⟨rfl, hsegments⟩ := List.cons_eq_cons.mp heq
      exact hrest before t after hsegments

theorem isFollowed_nil (trail : List Text) : IsFollowed trail [] := fun before _ after h =>
  absurd h.symm (List.append_ne_nil_of_right_ne_nil before (List.cons_ne_nil _ after))

instance decidableIsFollowed : (trail segments : List Text) → Decidable (IsFollowed trail segments)
  | trail, [] => isTrue (isFollowed_nil trail)
  | trail, s :: segments =>
    haveI := decidableIsFollowed (onward trail s) segments
    decidable_of_iff' _ isFollowed_cons

/-- **A stack and a trail that belong together**: the trail may have empty segments below those of
the stack. -/
structure Tracks (stack trail : List Text) : Prop where
  exists_eq : ∃ n, trail = stack.map Percent.decode ++ List.replicate n []
  isEncoded : ∀ u ∈ stack, IsEncoded u

/-- On the stack, too, only the names count that the trail has. -/
theorem Tracks.filter_eq (h : Tracks stack trail) :
    (stack.map Percent.decode).filter (· != []) = trail.filter (· != []) := by
  obtain ⟨n, rfl⟩ := h.exists_eq
  rw [List.filter_append, List.filter_replicate_of_neg (by simp), List.append_nil]

/-- A stack without segments has a trail without names. -/
theorem Tracks.eq_nil_of_mem (h : Tracks [] trail) : ∀ t ∈ trail, t = [] := by
  obtain ⟨n, rfl⟩ := h.exists_eq
  exact fun t ht => List.eq_of_mem_replicate ht

/-- What `..` takes away. -/
theorem Tracks.popSegment (h : Tracks stack trail) (hf : Follows trail ['.', '.']) :
    Tracks (popSegment stack) (trail.drop 1) := by
  cases stack with
  | nil =>
    obtain ⟨n, rfl⟩ := h.exists_eq
    exact ⟨⟨n - 1, by rw [List.map_nil, List.nil_append, List.drop_replicate]; rfl⟩,
      fun u hu => absurd hu List.not_mem_nil⟩
  | cons u stack =>
    obtain ⟨n, rfl⟩ := h.exists_eq
    obtain ⟨hu, hstack⟩ := List.forall_mem_cons.mp h.isEncoded
    have hdrive : isDrive u = false := by
      rcases hf.above rfl with hnone | ⟨t, htrail, -, ht⟩
      · rw [hu.eq_nil (hnone _ List.mem_cons_self)]
        rfl
      · cases htrail
        rw [hu.isDrive_eq, ht]
    rw [Url.popSegment, hdrive]
    exact ⟨⟨n, rfl⟩, hstack⟩

/-- A segment that leads down is pushed as it is, drive letters included. -/
theorem Tracks.pushSegment_eq (h : Tracks stack trail) (ht : Percent.Untripled t)
    (hhere : t ≠ ['.']) (habove : t ≠ ['.', '.']) (hf : Follows trail t) :
    pushSegment true stack (encoded t) = encoded t :: stack := by
  rw [pushSegment, if_neg (mt (isAbove_encoded ht).mp habove),
    if_neg (mt (isHere_encoded ht).mp hhere)]
  split_ifs with hdrive
  · rw [Bool.and_eq_true, Bool.and_eq_true, decide_eq_true_eq, isDrive_encoded ht] at hdrive
    obtain ⟨⟨-, rfl⟩, hdrive⟩ := hdrive
    obtain ⟨a, b, rfl, ha, hb⟩ := exists_of_isDrive hdrive
    rw [encoded_of_isDrive hdrive]
    rcases hb with rfl | rfl
    · rfl
    · cases hf.drive h.eq_nil_of_mem hdrive
  · rfl

/-- **One step**: the stack and the trail stay together. -/
theorem Tracks.pushSegment (h : Tracks stack trail) (ht : Percent.Untripled t) (hslash : '/' ∉ t)
    (hf : Follows trail t) : Tracks (pushSegment true stack (encoded t)) (onward trail t) := by
  by_cases hhere : t = ['.']
  · subst hhere
    exact h
  by_cases habove : t = ['.', '.']
  · subst habove
    exact h.popSegment hf
  · rw [h.pushSegment_eq ht hhere habove hf, onward, if_neg hhere, climb, if_neg habove]
    obtain ⟨n, rfl⟩ := h.exists_eq
    exact ⟨⟨n, by rw [List.map_cons, decode_encoded ht, List.cons_append]⟩,
      List.forall_mem_cons.mpr ⟨isEncoded_encoded ht hslash hhere habove, h.isEncoded⟩⟩

/-- **One step**: the trail and the names stay together. -/
theorem Follows.filter_onward (h : Follows trail t) : (onward trail t).filter (· != [])
    = if isIdle t then trail.filter (· != []) else climb (trail.filter (· != [])) t := by
  by_cases hhere : t = ['.']
  · subst hhere
    rfl
  by_cases hnil : t = []
  · subst hnil
    rfl
  rw [onward, if_neg hhere, if_neg (by rw [isIdle_eq_true_iff]; tauto)]
  by_cases habove : t = ['.', '.']
  · subst habove
    show (trail.drop 1).filter _ = (trail.filter _).drop 1
    rcases h.above rfl with hnone | ⟨s, hmem, hs, -⟩
    · rw [List.filter_eq_nil_iff.mpr, List.filter_eq_nil_iff.mpr]
      · rfl
      · intro s hs
        rw [hnone s hs]
        decide
      · intro s hs
        rw [hnone s (List.mem_of_mem_drop hs)]
        decide
    · obtain ⟨rest, rfl⟩ := List.head?_eq_some_iff.mp hmem
      rw [List.filter_cons_of_pos (by simpa using hs)]
      rfl
  · rw [climb, climb, if_neg habove, if_neg habove, List.filter_cons_of_pos (by simpa using hnil)]

/-- **All steps**: the stack, the trail and the names stay together. -/
theorem tracks_foldl (h : Tracks stack trail) (hsegments : ∀ t ∈ segments, Percent.Untripled t)
    (hslash : ∀ t ∈ segments, '/' ∉ t) (hfollowed : IsFollowed trail segments) :
    Tracks ((segments.map encoded).foldl (pushSegment true) stack) (segments.foldl onward trail)
      ∧ (segments.foldl onward trail).filter (· != [])
        = (segments.filter fun s => !isIdle s).foldl climb (trail.filter (· != [])) := by
  induction segments generalizing stack trail with
  | nil => exact ⟨h, rfl⟩
  | cons t segments ih =>
    obtain ⟨ht, hsegments⟩ := List.forall_mem_cons.mp hsegments
    obtain ⟨htslash, hslash⟩ := List.forall_mem_cons.mp hslash
    obtain ⟨hf, hfollowed⟩ := isFollowed_cons.mp hfollowed
    obtain ⟨htracks, hnames⟩ := ih (h.pushSegment ht htslash hf) hsegments hslash hfollowed
    refine ⟨htracks, ?_⟩
    rw [List.foldl_cons, hnames, hf.filter_onward]
    cases hidle : isIdle t with
    | true => rw [if_pos rfl, List.filter_cons_of_neg (by simp [hidle])]
    | false =>
      rw [if_neg Bool.false_ne_true, List.filter_cons_of_pos (by simp [hidle]), List.foldl_cons]

end Url

end ModuleHooks
