import ModuleHooks.Failure
import ModuleHooks.Proofs.Config.Fields
import ModuleHooks.Proofs.Toml.UniqueNames
/-!
# Dates in a layer

The document of a layer knows dates by a member: a table whose first member has the name of dates is
taken for a date (`IsDateTable`). It has to be one, or the document is refused, and this is the only
reason for which a document that can be read cannot be a layer (`exists_recogniseAll_error_iff`).

A date is as good as a text there. On the other hand, a value that is spelled right in a file that
is read alone holds no date and stays what it is (`recognise_of_spellsOn`), and a value without a
date is spelled right in a layer only if it is so alone (`spellsOn_alone_of_recognise`).
-/

namespace ModuleHooks.Config

variable {t t' : Toml.Table} {k : Key} {v v' : Toml.Node} {why : Toml.Fault}

/-! ## Dates -/

/-- **A table that stands for a date** in a layer: its first member has the name of dates. -/
def IsDateTable (t : Toml.Table) : Prop := ∃ m ∈ t.members.head?, m.1.name = dateMember

/-- **A value that is a date in a layer.** -/
inductive IsDate : Toml.Node → Prop
  | literal (span : Toml.Span) (d : Toml.DateTime) : IsDate (.scalar span (.datetime d))
  | table {t : Toml.Table} : IsDateTable t → IsDate (.table t)

/-- **A value that is a date in a layer, or a list with one among its items.** -/
inductive HasDate : Toml.Node → Prop
  | here {v : Toml.Node} : IsDate v → HasDate v
  | item {span : Toml.Span} {items : List Toml.Node} {v : Toml.Node} :
    v ∈ items → IsDate v → HasDate (.array span items)
  | ofTables {items : List Toml.Node} {v : Toml.Node} :
    v ∈ items → IsDate v → HasDate (.tables items)

/-- The text of a date. -/
def IsDateText (v : Toml.Node) : Prop :=
  ∃ span text d, v = .scalar span (.string text) ∧ Toml.DateTime.parse? text = some d

/-- **A value with a table in it that stands for a date and is none.** -/
inductive Misdated : Toml.Node → Prop
  | here {t : Toml.Table} {m : Toml.Key × Toml.Node} :
    m ∈ t.members.head? → m.1.name = dateMember → ¬ IsDateText m.2 → Misdated (.table t)
  | member {t : Toml.Table} {m : Toml.Key × Toml.Node} :
    ¬ IsDateTable t → m ∈ t.members → Misdated m.2 → Misdated (.table t)
  | item {span : Toml.Span} {items : List Toml.Node} {v : Toml.Node} :
    v ∈ items → Misdated v → Misdated (.array span items)
  | ofTables {items : List Toml.Node} {v : Toml.Node} :
    v ∈ items → Misdated v → Misdated (.tables items)

/-! ## Recognising dates -/

section Recognition

variable {items items' : List Toml.Node}
  {m : Toml.Key × Toml.Node} {ms ms' : List (Toml.Key × Toml.Node)}

theorem eq_error_of_map {ε α β : Type} {f : α → β} {x : Except ε α} {e : ε}
    (h : x.map f = .error e) : x = .error e := by
  cases x with
  | error _ => cases h; rfl
  | ok a => cases h

theorem recogniseItems_eq_ok_iff : recogniseItems items = .ok items' ↔
    List.Forall₂ (fun v v' => recognise v = .ok v') items items' := by
  induction items generalizing items' with
  | nil =>
    rw [List.forall₂_nil_left_iff, recogniseItems, Except.ok.injEq]
    exact eq_comm
  | cons v rest ih =>
    rw [recogniseItems]
    constructor
    · intro h
      obtain ⟨v', hv, h⟩ := Toml.exists_of_bind_eq_ok h
      obtain ⟨rest', hrest, h⟩ := Toml.exists_of_bind_eq_ok h
      cases h
      exact .cons hv (ih.mp hrest)
    · rintro (_ | ⟨hv, hrest⟩)
      rw [hv, ih.mpr hrest]
      rfl

theorem recogniseMembers_eq_ok_iff : recogniseMembers ms = .ok ms' ↔
    List.Forall₂ (fun m m' => m'.1 = m.1 ∧ recognise m.2 = .ok m'.2) ms ms' := by
  induction ms generalizing ms' with
  | nil =>
    rw [List.forall₂_nil_left_iff, recogniseMembers, Except.ok.injEq]
    exact eq_comm
  | cons m rest ih =>
    obtain ⟨k, v⟩ := m
    rw [recogniseMembers]
    constructor
    · intro h
      obtain ⟨v', hv, h⟩ := Toml.exists_of_bind_eq_ok h
      obtain ⟨rest', hrest, h⟩ := Toml.exists_of_bind_eq_ok h
      cases h
      exact .cons ⟨rfl, mapError_eq_ok_iff.mp hv⟩ (ih.mp hrest)
    · rintro (_ | ⟨⟨rfl, hv⟩, hrest⟩)
      rw [hv, ih.mpr hrest]
      rfl

/-- What stands beside its like in two lists. -/
theorem exists_of_mem_left {α β : Type} {R : α → β → Prop} {as : List α} {bs : List β} {a : α}
    (h : List.Forall₂ R as bs) (ha : a ∈ as) : ∃ b ∈ bs, R a b := by
  induction h with
  | nil => cases ha
  | cons hab _ ih =>
    rcases List.mem_cons.mp ha with rfl | ha
    · exact ⟨_, List.mem_cons_self, hab⟩
    · obtain ⟨b, hb, h⟩ := ih ha
      exact ⟨b, List.mem_cons_of_mem _ hb, h⟩

theorem recognise_of_isDateTable (hm : m ∈ t.members.head?) (hname : m.1.name = dateMember) :
    recognise (.table t) = (readDate m.2).mapError (located m.1 m.2) := by
  obtain ⟨span, inline, implicit, dotted, members⟩ := t
  have hfilter : members.head?.filter (·.1.name == dateMember) = some m := by
    rw [Option.mem_def.mp hm, Option.filter_some, hname, beq_self_eq_true, if_pos rfl]
  rw [recognise, recogniseTable, hfilter]

theorem recognise_of_not_isDateTable (h : ¬ IsDateTable t) : recognise (.table t)
    = (recogniseMembers t.members).map fun members => .table { t with members } := by
  obtain ⟨span, inline, implicit, dotted, members⟩ := t
  have hfilter : members.head?.filter (·.1.name == dateMember) = none := by
    refine Option.filter_eq_none_iff.mpr fun m hm hname => h ⟨m, hm, ?_⟩
    exact beq_iff_eq.mp hname
  rw [recognise, recogniseTable, hfilter]

/-- What is read as a date is a literal date. -/
theorem exists_of_readDate (h : readDate v = .ok v') :
    IsDateText v ∧ ∃ span d, v' = .scalar span (.datetime d) := by
  unfold readDate at h
  split at h
  · split at h
    · next span text _ d hparse =>
      cases h
      exact ⟨⟨span, text, d, rfl, hparse⟩, span, d, rfl⟩
    · cases h
  · cases h

theorem exists_readDate (h : IsDateText v) : ∃ v', readDate v = .ok v' := by
  obtain ⟨span, text, d, rfl, hparse⟩ := h
  exact ⟨.scalar span (.datetime d), by rw [readDate, hparse]⟩

mutual

/-- A value in which the dates cannot be recognised has a table that is no date. -/
theorem misdated_of_recognise :
    ∀ {v : Toml.Node} {why : Toml.Fault}, recognise v = .error why → Misdated v
  | .scalar _ _, _, h => by cases h
  | .array span items, why, h => by
    rw [recognise] at h
    obtain ⟨v, hv, hbad⟩ := exists_misdated_item (eq_error_of_map h)
    exact .item hv hbad
  | .tables items, why, h => by
    rw [recognise] at h
    obtain ⟨v, hv, hbad⟩ := exists_misdated_item (eq_error_of_map h)
    exact .ofTables hv hbad
  | .table ⟨span, inline, implicit, dotted, members⟩, why, h => by
    by_cases hdate : IsDateTable ⟨span, inline, implicit, dotted, members⟩
    · obtain ⟨m, hm, hname⟩ := hdate
      refine .here hm hname fun htext => ?_
      obtain ⟨v', hv'⟩ := exists_readDate htext
      rw [recognise_of_isDateTable hm hname, hv'] at h
      cases h
    · rw [recognise_of_not_isDateTable hdate] at h
      obtain ⟨m, hm, hbad⟩ := exists_misdated_member (eq_error_of_map h)
      exact .member hdate hm hbad

theorem exists_misdated_item : ∀ {items : List Toml.Node} {why : Toml.Fault},
    recogniseItems items = .error why → ∃ v ∈ items, Misdated v
  | [], _, h => by cases h
  | v :: rest, why, h => by
    cases hv : recognise v with
    | error why => exact ⟨v, List.mem_cons_self, misdated_of_recognise hv⟩
    | ok v' =>
      cases hrest : recogniseItems rest with
      | error why =>
        obtain ⟨w, hw, hbad⟩ := exists_misdated_item hrest
        exact ⟨w, List.mem_cons_of_mem v hw, hbad⟩
      | ok rest' => rw [recogniseItems, hv, hrest] at h; cases h

theorem exists_misdated_member :
    ∀ {ms : List (Toml.Key × Toml.Node)} {why : Toml.Fault},
      recogniseMembers ms = .error why → ∃ m ∈ ms, Misdated m.2
  | [], _, h => by cases h
  | (k, v) :: rest, why, h => by
    cases hv : recognise v with
    | error why => exact ⟨(k, v), List.mem_cons_self, misdated_of_recognise hv⟩
    | ok v' =>
      cases hrest : recogniseMembers rest with
      | error why =>
        obtain ⟨w, hw, hbad⟩ := exists_misdated_member hrest
        exact ⟨w, List.mem_cons_of_mem _ hw, hbad⟩
      | ok rest' => rw [recogniseMembers, hv, hrest] at h; cases h

end

/-- Where a table is no date that should be one, the dates cannot be recognised. -/
theorem Misdated.recognise_ne_ok (h : Misdated v) (v' : Toml.Node) : recognise v ≠ .ok v' := by
  induction h generalizing v' with
  | here hm hname htext =>
    intro hv
    rw [recognise_of_isDateTable hm hname, mapError_eq_ok_iff] at hv
    exact htext (exists_of_readDate hv).1
  | member hdate hm _ ih =>
    intro hv
    rw [recognise_of_not_isDateTable hdate] at hv
    obtain ⟨ms', hms, -⟩ := Toml.exists_of_map_eq_ok hv
    obtain ⟨m', -, -, hm'⟩ := exists_of_mem_left (recogniseMembers_eq_ok_iff.mp hms) hm
    exact ih _ hm'
  | item hw _ ih | ofTables hw _ ih =>
    intro hv
    rw [recognise] at hv
    obtain ⟨items', hitems, -⟩ := Toml.exists_of_map_eq_ok hv
    obtain ⟨w', -, hw'⟩ := exists_of_mem_left (recogniseItems_eq_ok_iff.mp hitems) hw
    exact ih _ hw'

/-- **A document can be a layer** unless a table in it stands for a date and is none. -/
theorem exists_recogniseAll_error_iff :
    (∃ why, recogniseAll t = .error why) ↔ ∃ m ∈ t.members, Misdated m.2 := by
  constructor
  · rintro ⟨why, h⟩
    exact exists_misdated_member (eq_error_of_map h)
  · rintro ⟨m, hm, hbad⟩
    cases h : recogniseAll t with
    | error why => exact ⟨why, rfl⟩
    | ok t' =>
      obtain ⟨ms', hms, -⟩ := Toml.exists_of_map_eq_ok h
      obtain ⟨m', -, -, hm'⟩ := exists_of_mem_left (recogniseMembers_eq_ok_iff.mp hms) hm
      exact absurd hm' (hbad.recognise_ne_ok _)

/-- Members with the same names, one by one, are found together. -/
theorem find?_cases_of_forall₂
    (h : List.Forall₂ (fun m m' => m'.1 = m.1 ∧ recognise m.2 = .ok m'.2) ms ms') (name : Text) :
    ((ms.find? fun m => m.1.name == name) = none ∧ (ms'.find? fun m => m.1.name == name) = none)
      ∨ ∃ m m', (ms.find? fun m => m.1.name == name) = some m
        ∧ (ms'.find? fun m => m.1.name == name) = some m' ∧ recognise m.2 = .ok m'.2 := by
  induction h with
  | nil => exact Or.inl ⟨rfl, rfl⟩
  | @cons m m' ms ms' hm _ ih =>
    obtain ⟨hkey, hv⟩ := hm
    rw [List.find?_cons, List.find?_cons, hkey]
    cases m.1.name == name with
    | true => exact Or.inr ⟨m, m', rfl, rfl, hv⟩
    | false => exact ih

/-- The values of a layer are those of the document, with the dates in them recognised. -/
theorem get?_recogniseAll_cases (h : recogniseAll t = .ok t') (name : Text) :
    (t.get? name = none ∧ t'.get? name = none)
      ∨ ∃ v v', t.get? name = some v ∧ t'.get? name = some v' ∧ recognise v = .ok v' := by
  obtain ⟨ms', hms, rfl⟩ := Toml.exists_of_map_eq_ok h
  rcases find?_cases_of_forall₂ (recogniseMembers_eq_ok_iff.mp hms) name with
    ⟨hm, hm'⟩ | ⟨m, m', hm, hm', hv⟩
  · exact Or.inl ⟨Option.map_eq_none_iff.mpr hm, Option.map_eq_none_iff.mpr hm'⟩
  · exact Or.inr ⟨m.2, m'.2, Option.map_eq_some_iff.mpr ⟨m, hm, rfl⟩,
      Option.map_eq_some_iff.mpr ⟨m', hm', rfl⟩, hv⟩

/-- **What a value becomes** when the dates in it are recognised. -/
inductive Becomes : Toml.Node → Toml.Node → Prop
  | scalar (span : Toml.Span) (s : Toml.Scalar) : Becomes (.scalar span s) (.scalar span s)
  | date {t : Toml.Table} (span : Toml.Span) (d : Toml.DateTime) :
    IsDateTable t → Becomes (.table t) (.scalar span (.datetime d))
  | array (span : Toml.Span) {items items' : List Toml.Node} :
    List.Forall₂ (fun v v' => recognise v = .ok v') items items' →
    Becomes (.array span items) (.array span items')
  | tables {items items' : List Toml.Node} :
    List.Forall₂ (fun v v' => recognise v = .ok v') items items' →
    Becomes (.tables items) (.tables items')
  | table {t : Toml.Table} {ms' : List (Toml.Key × Toml.Node)} :
    List.Forall₂ (fun m m' => m'.1 = m.1 ∧ recognise m.2 = .ok m'.2) t.members ms' →
    Becomes (.table t) (.table { t with members := ms' })

theorem becomes_of_recognise (h : recognise v = .ok v') : Becomes v v' := by
  cases v with
  | scalar span s =>
    cases h
    exact .scalar span s
  | array span items =>
    rw [recognise] at h
    obtain ⟨items', hitems, rfl⟩ := Toml.exists_of_map_eq_ok h
    exact .array span (recogniseItems_eq_ok_iff.mp hitems)
  | tables items =>
    rw [recognise] at h
    obtain ⟨items', hitems, rfl⟩ := Toml.exists_of_map_eq_ok h
    exact .tables (recogniseItems_eq_ok_iff.mp hitems)
  | table t =>
    by_cases hdate : IsDateTable t
    · obtain ⟨m, hm, hname⟩ := hdate
      rw [recognise_of_isDateTable hm hname, mapError_eq_ok_iff] at h
      obtain ⟨-, span, d, rfl⟩ := exists_of_readDate h
      exact .date span d ⟨m, hm, hname⟩
    · rw [recognise_of_not_isDateTable hdate] at h
      obtain ⟨ms', hms, rfl⟩ := Toml.exists_of_map_eq_ok h
      exact .table (recogniseMembers_eq_ok_iff.mp hms)

end Recognition

/-! ## Values on both routes -/

section Spelling

variable {s : Text} {ts : List Text} {x : k.Value}

theorem layered_of_isText (h : v.IsText .alone s) : v.IsText .layered s := by
  cases h
  exact .string .layered _ s

theorem recognise_of_isText (h : v.IsText .alone s) : recognise v = .ok v := by
  cases h
  rfl

theorem not_isDate_of_isText (h : v.IsText .alone s) : ¬ IsDate v := by
  cases h
  rintro ⟨⟩

/-- What becomes a text was one, if it was no date. -/
theorem isText_of_becomes (hv : Becomes v v') (hs : v'.IsText .layered s) (hnone : ¬ IsDate v) :
    v.IsText .alone s := by
  cases hs with
  | string route span s =>
    cases hv
    exact .string .alone span s
  | datetime span d =>
    cases hv with
    | scalar _ _ => exact absurd (.literal span d) hnone
    | date _ _ hdate => exact absurd (.table hdate) hnone

theorem isTexts_of_forall₂ {items items' : List Toml.Node}
    (hitems : List.Forall₂ (fun v v' => recognise v = .ok v') items items')
    (hts : List.Forall₂ (Toml.Node.IsText .layered) items' ts) (hnone : ∀ v ∈ items, ¬ IsDate v) :
    List.Forall₂ (Toml.Node.IsText .alone) items ts := by
  induction hitems generalizing ts with
  | nil => rwa [List.forall₂_nil_left_iff] at hts ⊢
  | cons hv _ ih =>
    rcases hts with _ | ⟨hs, hrest⟩
    refine .cons (isText_of_becomes (becomes_of_recognise hv) hs ?_) (ih hrest fun w hw => ?_)
    · exact hnone _ List.mem_cons_self
    · exact hnone w (List.mem_cons_of_mem _ hw)

/-- The items of an empty value are none, before and after. -/
theorem isEmpty_of_becomes (hv : Becomes v v') (h : v'.IsEmpty) : v.IsEmpty := by
  cases h with
  | @table t' hmembers =>
    cases hv with
    | @table t ms' hms =>
      cases hmembers
      exact .table (List.forall₂_nil_right_iff.mp hms)
  | array span =>
    cases hv with
    | @array _ items _ hitems =>
      cases List.forall₂_nil_right_iff.mp hitems
      exact .array span
  | tables =>
    cases hv with
    | @tables items _ hitems =>
      cases List.forall₂_nil_right_iff.mp hitems
      exact .tables

theorem recognise_of_isEmpty (h : v.IsEmpty) : recognise v = .ok v := by
  cases h with
  | @table t hmembers =>
    obtain ⟨span, inline, implicit, dotted, members⟩ := t
    cases hmembers
    rfl
  | array span => rfl
  | tables => rfl

theorem isChoice_of_becomes {α : Type} {name : α → Text} {a : α} (hv : Becomes v v')
    (h : v'.IsChoice name a) : v.IsChoice name a := by
  cases h with
  | text span a =>
    cases hv
    exact .text span a
  | member hmembers hname hempty =>
    cases hv with
    | @table t ms' hms =>
      obtain rfl : ms' = _ := hmembers
      rcases ht : t.members with _ | ⟨⟨key, beside⟩, rest⟩
      · rw [ht] at hms
        cases hms
      · rw [ht] at hms
        rcases hms with _ | ⟨⟨rfl, hbeside⟩, hrest⟩
        obtain rfl := List.forall₂_nil_right_iff.mp hrest
        exact .member ht hname (isEmpty_of_becomes (becomes_of_recognise hbeside) hempty)

theorem recognise_of_isTexts (h : v.IsTexts .alone ts) : recognise v = .ok v := by
  have hitems : ∀ {items : List Toml.Node}, List.Forall₂ (Toml.Node.IsText .alone) items ts →
      recogniseItems items = .ok items := by
    intro items hts
    refine recogniseItems_eq_ok_iff.mpr (List.forall₂_same.mpr fun w hw => ?_)
    obtain ⟨s, -, hs⟩ := exists_of_mem_left hts hw
    exact recognise_of_isText hs
  cases h with
  | array span hts => rw [recognise, hitems hts]; rfl
  | tables hts => rw [recognise, hitems hts]; rfl

/-- No choice has the name of dates. -/
theorem recognise_of_isChoice {α : Type} {name : α → Text} {a : α}
    (hnames : ∀ a, name a ≠ dateMember) (h : v.IsChoice name a) : recognise v = .ok v := by
  cases h with
  | text span a => rfl
  | @member t key beside a hmembers hname hempty =>
    have hdate : ¬ IsDateTable t := by
      rintro ⟨m, hm, hm'⟩
      rw [hmembers] at hm
      cases hm
      exact hnames a (hname.symm.trans hm')
    have hms : recogniseMembers t.members = .ok t.members := by
      rw [recogniseMembers_eq_ok_iff, hmembers]
      exact .cons ⟨rfl, recognise_of_isEmpty hempty⟩ .nil
    rw [recognise_of_not_isDateTable hdate, hms]
    rfl

theorem name_ne_dateMember :
    (∀ a, ClassNaming.name a ≠ dateMember) ∧ (∀ a, LocalsConvention.name a ≠ dateMember)
      ∧ ∀ a, AssetExport.name a ≠ dateMember := by
  refine ⟨?_, ?_, ?_⟩ <;> rintro ⟨⟩ <;> decide

/-- **A value that is spelled right alone** stays what it is in a layer. -/
theorem recognise_of_spellsOn (h : k.SpellsOn .alone v x) : recognise v = .ok v := by
  cases k with
  | classNaming => exact recognise_of_isChoice name_ne_dateMember.1 h
  | localsConvention => exact recognise_of_isChoice name_ne_dateMember.2.1 h
  | assetExport => exact recognise_of_isChoice name_ne_dateMember.2.2 h
  | onCssImported | onCss =>
    obtain ⟨s, hs, -⟩ := h
    exact recognise_of_isText hs
  | outputDirs => exact recognise_of_isTexts h
  | sourceDir => exact recognise_of_isText h

/-- It means the same there. -/
theorem layered_of_spellsOn (h : k.SpellsOn .alone v x) : k.SpellsOn .layered v x := by
  cases k with
  | classNaming | localsConvention | assetExport => exact h
  | onCssImported | onCss =>
    obtain ⟨s, hs, hx⟩ := h
    exact ⟨s, layered_of_isText hs, hx⟩
  | outputDirs =>
    cases h with
    | array span hts => exact .array span (hts.imp fun _ _ => layered_of_isText)
    | tables hts => exact .tables (hts.imp fun _ _ => layered_of_isText)
  | sourceDir => exact layered_of_isText h

theorem not_hasDate_of_isText (h : v.IsText .alone s) : ¬ HasDate v := by
  intro hdate
  cases hdate with
  | here hv => exact not_isDate_of_isText h hv
  | item | ofTables => cases h

theorem not_hasDate_of_isTexts (h : v.IsTexts .alone ts) : ¬ HasDate v := by
  have hitems : ∀ {items : List Toml.Node} {w : Toml.Node},
      List.Forall₂ (Toml.Node.IsText .alone) items ts → w ∈ items → ¬ IsDate w := by
    intro items w hts hw
    obtain ⟨s, -, hs⟩ := exists_of_mem_left hts hw
    exact not_isDate_of_isText hs
  intro hdate
  cases hdate with
  | here hv => cases hv <;> cases h
  | item hw hdate =>
    cases h with
    | array _ hts => exact hitems hts hw hdate
  | ofTables hw hdate =>
    cases h with
    | tables hts => exact hitems hts hw hdate

theorem not_hasDate_of_isChoice {α : Type} {name : α → Text} {a : α}
    (hnames : ∀ a, name a ≠ dateMember) (h : v.IsChoice name a) : ¬ HasDate v := by
  intro hdate
  cases hdate with
  | here hv =>
    cases hv with
    | literal => cases h
    | table ht =>
      obtain ⟨m, hm, hm'⟩ := ht
      cases h with
      | @member t key beside a hmembers hname _ =>
        rw [hmembers] at hm
        cases hm
        exact hnames a (hname.symm.trans hm')
  | item | ofTables => cases h

/-- No date is spelled right alone. -/
theorem not_hasDate_of_spellsOn (h : k.SpellsOn .alone v x) : ¬ HasDate v := by
  cases k with
  | classNaming => exact not_hasDate_of_isChoice name_ne_dateMember.1 h
  | localsConvention => exact not_hasDate_of_isChoice name_ne_dateMember.2.1 h
  | assetExport => exact not_hasDate_of_isChoice name_ne_dateMember.2.2 h
  | onCssImported | onCss =>
    obtain ⟨s, hs, -⟩ := h
    exact not_hasDate_of_isText hs
  | outputDirs => exact not_hasDate_of_isTexts h
  | sourceDir => exact not_hasDate_of_isText h

/-- **Without a date, what is spelled right in a layer is spelled right alone.** -/
theorem spellsOn_alone_of_recognise (hv : recognise v = .ok v') (h : k.SpellsOn .layered v' x)
    (hnone : ¬ HasDate v) : k.SpellsOn .alone v x := by
  have hbecomes := becomes_of_recognise hv
  have hdate : ¬ IsDate v := fun hdate => hnone (.here hdate)
  cases k with
  | classNaming | localsConvention | assetExport => exact isChoice_of_becomes hbecomes h
  | onCssImported | onCss =>
    obtain ⟨s, hs, hx⟩ := h
    exact ⟨s, isText_of_becomes hbecomes hs hdate, hx⟩
  | outputDirs =>
    cases h with
    | array span hts =>
      cases hbecomes with
      | array _ hitems =>
        exact .array span (isTexts_of_forall₂ hitems hts fun w hw hdate => hnone (.item hw hdate))
    | tables hts =>
      cases hbecomes with
      | tables hitems =>
        exact .tables (isTexts_of_forall₂ hitems hts fun w hw hdate => hnone (.ofTables hw hdate))
  | sourceDir => exact isText_of_becomes hbecomes h hdate

end Spelling

end ModuleHooks.Config
