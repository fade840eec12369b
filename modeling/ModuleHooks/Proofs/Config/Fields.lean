import Mathlib
import ModuleHooks.Config.Document
/-!
# The fields of a configuration

A configuration is seven fields that have nothing to do with each other. Reading a
field (`Config.get`) and writing it (`Config.put`) obey the laws of a record, and
these laws are all that the layers of a configuration need.

There are two ways to come by the value of a field: from a text, as environment
variables give it (`fromText`), and from a value of a document (`fromNode`).
Neither looks at the configuration that it changes (`setKey_eq`, `readField_eq`).
Which values of a document mean something, and what, is said by `Key.Spells`. It
depends on how the document is read in one way: a layer takes dates for texts, a
file that is read alone does not.
-/

namespace ModuleHooks

/-- **What a key is a setting of.** -/
def Key.Value : Key → Type
  | .classNaming => ClassNaming
  | .localsConvention => LocalsConvention
  | .assetExport => AssetExport
  | .onCssImported => Option Text
  | .onCss => Option Text
  | .outputDirs => List Text
  | .sourceDir => Text

namespace Config

/-- **The value of a key.** -/
def get (c : Config) : (k : Key) → k.Value
  | .classNaming => c.classNaming
  | .localsConvention => c.localsConvention
  | .assetExport => c.assetExport
  | .onCssImported => c.onCssImported
  | .onCss => c.onCss
  | .outputDirs => c.outputDirs
  | .sourceDir => c.sourceDir

/-- **The configuration with another value for a key.** -/
def put (c : Config) : (k : Key) → k.Value → Config
  | .classNaming, x => { c with classNaming := x }
  | .localsConvention, x => { c with localsConvention := x }
  | .assetExport, x => { c with assetExport := x }
  | .onCssImported, x => { c with onCssImported := x }
  | .onCss, x => { c with onCss := x }
  | .outputDirs, x => { c with outputDirs := x }
  | .sourceDir, x => { c with sourceDir := x }

@[simp] theorem get_put_self (c : Config) (k : Key) (x : k.Value) : (c.put k x).get k = x := by
  cases k <;> rfl

/-- Writing a field leaves the others alone. -/
theorem get_put_of_ne (c : Config) {k l : Key} (x : k.Value) (h : l ≠ k) :
    (c.put k x).get l = c.get l := by
  cases k <;> cases l <;> first | rfl | exact absurd rfl h

/-- A configuration is nothing but its fields. -/
theorem ext_get {c d : Config} (h : ∀ k, c.get k = d.get k) : c = d := by
  obtain ⟨_, _, _, _, _, _, _⟩ := c
  obtain ⟨_, _, _, _, _, _, _⟩ := d
  obtain rfl := h .classNaming
  obtain rfl := h .localsConvention
  obtain rfl := h .assetExport
  obtain rfl := h .onCssImported
  obtain rfl := h .onCss
  obtain rfl := h .outputDirs
  obtain rfl := h .sourceDir
  rfl

end Config

namespace Key

@[simp] theorem ofName?_name (k : Key) : ofName? k.name = some k := by
  cases k <;> decide

theorem name_injective {k l : Key} (h : k.name = l.name) : k = l := by
  simpa [h] using (ofName?_name k).symm

end Key

/-! ## The names of choices -/

theorem ClassNaming.find?_all (a : ClassNaming) :
    (all.find? fun b => b.name == a.name) = some a := by
  cases a <;> decide

theorem LocalsConvention.find?_all (a : LocalsConvention) :
    (all.find? fun b => b.name == a.name) = some a := by
  cases a <;> decide

theorem AssetExport.find?_all (a : AssetExport) :
    (all.find? fun b => b.name == a.name) = some a := by
  cases a <;> decide

/-! ## Values from a text -/

namespace Config

/-- The value that a text gives a key. -/
def fromText : (k : Key) → Text → Except ConfigError k.Value
  | .classNaming, t => choice ClassNaming.name ClassNaming.all .classNaming t
  | .localsConvention, t => choice LocalsConvention.name LocalsConvention.all .localsConvention t
  | .assetExport, t => choice AssetExport.name AssetExport.all .assetExport t
  | .onCssImported, t => .ok (nonBlank? t)
  | .onCss, t => .ok (nonBlank? t)
  | .outputDirs, t => .ok (listed t)
  | .sourceDir, t => .ok t

/-- **Setting a field from a text** does not look at the configuration. -/
theorem setKey_eq (c : Config) (k : Key) (t : Text) :
    c.setKey k t = (fromText k t).map (c.put k) := by
  cases k <;> rfl

/-- The names of keys are the keys that are set. -/
theorem set_name (c : Config) (k : Key) (t : Text) :
    c.set k.name t = (fromText k t).map (c.put k) := by
  rw [set, Key.ofName?_name, ← setKey_eq]

/-- **A text is a value of a key that is known**, or it is refused. Neither depends on the
configuration that is to be changed. -/
theorem set_cases (key t : Text) :
    (∃ k x, k.name = key ∧ fromText k t = .ok x ∧ ∀ c : Config, c.set key t = .ok (c.put k x))
      ∨ ((∀ k x, k.name = key → fromText k t ≠ .ok x)
        ∧ ∃ why, ∀ c : Config, c.set key t = .error why) := by
  cases hname : Key.ofName? key with
  | none =>
    refine Or.inr ⟨fun k x hk => ?_, .unknownKey key, fun c => by rw [set, hname]⟩
    rw [← hk, Key.ofName?_name] at hname
    cases hname
  | some k =>
    obtain rfl : k.name = key := by simpa using List.find?_some hname
    cases hx : fromText k t with
    | ok x => exact Or.inl ⟨k, x, rfl, hx, fun c => by rw [set_name, hx]; rfl⟩
    | error why =>
      refine Or.inr ⟨fun l y hl hy => ?_, why, fun c => by rw [set_name, hx]; rfl⟩
      obtain rfl := Key.name_injective hl
      rw [hx] at hy
      cases hy

end Config

/-! ## Values from a document -/

namespace Toml.Node

/-- **A value that is a text.** A layer takes a date for the text of its normal form. -/
inductive IsText : Config.Route → Node → Text → Prop
  | string (route : Config.Route) (span : Span) (t : Text) :
    IsText route (.scalar span (.string t)) t
  | datetime (span : Span) (d : DateTime) :
    IsText .layered (.scalar span (.datetime d)) d.render

/-- **A value that is a list of texts.** -/
inductive IsTexts (route : Config.Route) : Node → List Text → Prop
  | array (span : Span) {items : List Node} {ts : List Text} :
    List.Forall₂ (IsText route) items ts → IsTexts route (.array span items) ts
  | tables {items : List Node} {ts : List Text} :
    List.Forall₂ (IsText route) items ts → IsTexts route (.tables items) ts

/-- **A value with nothing in it.** -/
inductive IsEmpty : Node → Prop
  | table {t : Table} : t.members = [] → IsEmpty (.table t)
  | array (span : Span) : IsEmpty (.array span [])
  | tables : IsEmpty (.tables [])

/-- **A value that names a choice**: the name as a text, or a table whose one member has
the name and is empty. -/
inductive IsChoice {α : Type} (name : α → Text) : Node → α → Prop
  | text (span : Span) (a : α) : IsChoice name (.scalar span (.string (name a))) a
  | member {t : Table} {k : Toml.Key} {beside : Node} {a : α} :
    t.members = [(k, beside)] → k.name = name a → IsEmpty beside → IsChoice name (.table t) a

end Toml.Node

/-- **Which values of a document spell a value of a key** on a route: a text, a list of
texts or one of the choices. An absent callback has no spelling. -/
def Key.SpellsOn (route : Config.Route) : (k : Key) → Toml.Node → k.Value → Prop
  | .classNaming, v, x => v.IsChoice ClassNaming.name x
  | .localsConvention, v, x => v.IsChoice LocalsConvention.name x
  | .assetExport, v, x => v.IsChoice AssetExport.name x
  | .onCssImported, v, x => ∃ t, v.IsText route t ∧ x = some t
  | .onCss, v, x => ∃ t, v.IsText route t ∧ x = some t
  | .outputDirs, v, x => v.IsTexts route x
  | .sourceDir, v, x => v.IsText route x

/-- **Which values of a layer spell a value of a key.** -/
abbrev Key.Spells (k : Key) (v : Toml.Node) (x : k.Value) : Prop := k.SpellsOn .layered v x

namespace Config

/-- The value that a value of a document gives a key. -/
def fromNode (route : Route) : (k : Key) → Toml.Node → Except Toml.Fault k.Value
  | .classNaming, v => readChoice route ClassNaming.name ClassNaming.all v
  | .localsConvention, v => readChoice route LocalsConvention.name LocalsConvention.all v
  | .assetExport, v => readChoice route AssetExport.name AssetExport.all v
  | .onCssImported, v => (readString route v).map some
  | .onCss, v => (readString route v).map some
  | .outputDirs, v => readStrings route v
  | .sourceDir, v => readString route v

/-- **Reading a field from a document** does not look at the configuration. -/
theorem readField_eq (route : Route) (c : Config) (k : Key) (v : Toml.Node) :
    readField route c k v = (fromNode route k v).map (c.put k) := by
  cases k with
  | onCssImported => rw [readField, fromNode]; cases readString route v <;> rfl
  | onCss => rw [readField, fromNode]; cases readString route v <;> rfl
  | _ => rfl

section Texts

variable {route : Route} {v : Toml.Node}

theorem readString_eq_ok_iff {t : Text} : readString route v = .ok t ↔ v.IsText route t := by
  constructor
  · intro h
    unfold readString at h
    split at h
    · cases h
      exact .string route _ t
    · cases route <;> cases h
      exact .datetime _ _
    · cases h
  · rintro (_ | _) <;> rfl

theorem mapM_readString_eq_ok_iff {items : List Toml.Node} {ts : List Text} :
    items.mapM (readString route) = .ok ts ↔ List.Forall₂ (Toml.Node.IsText route) items ts := by
  induction items generalizing ts with
  | nil =>
    rw [List.mapM_nil, List.forall₂_nil_left_iff]
    exact ⟨fun h => by cases h; rfl, fun h => by rw [h]; rfl⟩
  | cons v items ih =>
    rw [List.mapM_cons]
    constructor
    · intro h
      cases hv : readString route v with
      | error why => rw [hv] at h; cases h
      | ok t =>
        cases hitems : items.mapM (readString route) with
        | error why => rw [hv, hitems] at h; cases h
        | ok rest =>
          rw [hv, hitems] at h
          cases h
          exact .cons (readString_eq_ok_iff.mp hv) (ih.mp hitems)
    · rintro (_ | ⟨hv, hitems⟩)
      rw [readString_eq_ok_iff.mpr hv, ih.mpr hitems]
      rfl

theorem readStrings_eq_ok_iff {ts : List Text} :
    readStrings route v = .ok ts ↔ v.IsTexts route ts := by
  constructor
  · intro h
    unfold readStrings at h
    split at h
    · exact .array _ (mapM_readString_eq_ok_iff.mp h)
    · exact .tables (mapM_readString_eq_ok_iff.mp h)
    · cases h
  · rintro (⟨span, h⟩ | h) <;> exact mapM_readString_eq_ok_iff.mpr h

theorem emptyBeside_eq_ok_iff : emptyBeside route v = .ok () ↔ v.IsEmpty := by
  constructor
  · intro h
    unfold emptyBeside at h
    split at h
    · split_ifs at h with hempty
      exact .table (List.isEmpty_iff.mp hempty)
    · split_ifs at h with hempty
      rw [List.isEmpty_iff.mp hempty]
      exact .tables
    · split_ifs at h with hempty
      rw [List.isEmpty_iff.mp hempty]
      exact .array _
    · cases h
  · rintro (h | span | _)
    · rw [emptyBeside, h]; rfl
    · rfl
    · rfl

end Texts

section Choice

variable {α : Type} {name : α → Text} {all : List α}

/-- The choice that a name makes, among choices that are all listed and told apart by
their names. -/
theorem choiceOf_eq_ok_iff (hall : ∀ a, (all.find? fun b => name b == name a) = some a)
    {span : Option Toml.Span} {value : Text} {a : α} :
    choiceOf name all span value = .ok a ↔ name a = value := by
  constructor
  · intro h
    unfold choiceOf at h
    split at h <;> cases h
    next hfind => simpa using List.find?_some hfind
  · rintro rfl
    rw [choiceOf, hall]

theorem readChoice_eq_ok_iff (hall : ∀ a, (all.find? fun b => name b == name a) = some a)
    {route : Route} {v : Toml.Node} {a : α} :
    readChoice route name all v = .ok a ↔ v.IsChoice name a := by
  constructor
  · intro h
    unfold readChoice at h
    split at h
    · obtain rfl := (choiceOf_eq_ok_iff hall).mp h
      exact .text _ a
    · split at h
      · cases h
      · next k beside hmembers =>
        cases hk : choiceOf name all (some k.span) k.name with
        | error why => rw [hk] at h; cases h
        | ok b =>
          cases hbeside : emptyBeside route beside with
          | error why => rw [hk, hbeside] at h; cases h
          | ok u =>
            rw [hk, hbeside] at h
            cases h
            exact .member hmembers ((choiceOf_eq_ok_iff hall).mp hk).symm
              (emptyBeside_eq_ok_iff.mp hbeside)
      · cases h
    · cases h
  · rintro (span | ⟨hmembers, hname, hempty⟩)
    · exact (choiceOf_eq_ok_iff hall).mpr rfl
    · simp only [readChoice, hmembers]
      rw [(choiceOf_eq_ok_iff hall).mpr hname.symm, emptyBeside_eq_ok_iff.mpr hempty]
      rfl

end Choice

theorem map_some_readString_eq_ok_iff {route : Route} {v : Toml.Node} {x : Option Text} :
    (readString route v).map some = .ok x ↔ ∃ t, v.IsText route t ∧ x = some t := by
  cases h : readString route v with
  | error why =>
    constructor
    · intro hx
      cases hx
    · rintro ⟨t, ht, -⟩
      rw [readString_eq_ok_iff.mpr ht] at h
      cases h
  | ok t =>
    constructor
    · intro hx
      cases hx
      exact ⟨t, readString_eq_ok_iff.mp h, rfl⟩
    · rintro ⟨t', ht', rfl⟩
      rw [readString_eq_ok_iff.mpr ht'] at h
      cases h
      rfl

/-- **A value of a document is read as what it spells**, on either route. -/
theorem fromNode_eq_ok_iff {route : Route} {k : Key} {v : Toml.Node} {x : k.Value} :
    fromNode route k v = .ok x ↔ k.SpellsOn route v x := by
  cases k with
  | classNaming => exact readChoice_eq_ok_iff ClassNaming.find?_all
  | localsConvention => exact readChoice_eq_ok_iff LocalsConvention.find?_all
  | assetExport => exact readChoice_eq_ok_iff AssetExport.find?_all
  | onCssImported => exact map_some_readString_eq_ok_iff
  | onCss => exact map_some_readString_eq_ok_iff
  | outputDirs => exact readStrings_eq_ok_iff
  | sourceDir => exact readString_eq_ok_iff

/-- A value of a document spells one value of a key at most. -/
theorem eq_of_spells {route : Route} {k : Key} {v : Toml.Node} {x y : k.Value}
    (hx : k.SpellsOn route v x) (hy : k.SpellsOn route v y) : x = y := by
  have hread : fromNode route k v = .ok x := fromNode_eq_ok_iff.mpr hx
  exact Except.ok.inj (hread.symm.trans (fromNode_eq_ok_iff.mpr hy))

end Config

end ModuleHooks
