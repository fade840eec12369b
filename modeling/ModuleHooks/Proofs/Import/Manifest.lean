import ModuleHooks.Proofs.FileSystem.Contents
import ModuleHooks.Proofs.Import.Nearest
import ModuleHooks.Proofs.Json.Members
import ModuleHooks.Proofs.Text.Utf8
/-!
# What the fields of a manifest decide

A manifest answers two questions: what kind of modules a package has, and where its entry is. Each
is told from fields of its own, and the fields are read one by one (`ofDocument_eq`). So a field
that one of the questions is not about should have no influence on its answer.

It has one. A manifest is usable only as a whole, and a value of a wrong type spoils it for both
questions. Beyond that there is nothing: two file systems that differ in the other fields only
give the same answers wherever the one has a usable manifest exactly if the other has one
(`fields_independent`), and the fields that no question is about have no influence at all.
-/

namespace ModuleHooks.Manifest

open Json (IsObject)

variable {t t' : Text} {names : List Text} {fs fs' : FileSystem} {p : Path}

/-! ## Fields -/

/-- **A field of a document, read by itself**: null if it is missing, and nothing if it is
repeated or cannot be read. -/
def field? (name t : Text) : Option Json :=
  match Json.parse? [name] t with
  | some (.object members) => single? name members
  | _ => none

/-- A value that a field may have which is a text, if it is there. -/
inductive IsOptionalText : Json → Prop where
  | null : IsOptionalText .null
  | string (t : Text) : IsOptionalText (.string t)

theorem isSome_textField?_iff {v : Json} : (textField? v).isSome = true ↔ IsOptionalText v := by
  cases v with
  | null => exact iff_of_true rfl .null
  | string t => exact iff_of_true rfl (.string t)
  | bool b => exact iff_of_false Bool.false_ne_true (fun h => nomatch h)
  | number s => exact iff_of_false Bool.false_ne_true (fun h => nomatch h)
  | array items => exact iff_of_false Bool.false_ne_true (fun h => nomatch h)
  | object members => exact iff_of_false Bool.false_ne_true (fun h => nomatch h)

/-- A field that is a text has the text for its value. -/
theorem field?_eq_string {name s : Text} (h : (field? name t).bind textField? = some (some s)) :
    field? name t = some (.string s) := by
  obtain ⟨v, hv, htext⟩ := Option.bind_eq_some_iff.mp h
  cases v with
  | string t =>
    cases htext
    exact hv
  | _ => cases htext

/-- A field that is missing is null. -/
theorem field?_eq_null {name : Text} (h : (field? name t).bind textField? = some none) :
    field? name t = some .null := by
  obtain ⟨v, hv, htext⟩ := Option.bind_eq_some_iff.mp h
  cases v with
  | null => exact hv
  | _ => cases htext

/-- A field is told from the members of its name. -/
theorem single?_congr {name : Text} {ms ms' : List (Text × Json)}
    (h : (ms'.filter fun m => m.1 == name) = ms.filter fun m => m.1 == name) :
    single? name ms' = single? name ms := by
  rw [single?, single?, valuesOf, valuesOf, h]

/-- Reading a document for more fields gives the same value for each, if it can be read. -/
theorem field?_eq (hobject : IsObject t) {v : Json} (hparse : Json.parse? fieldNames t = some v)
    {name : Text} (hname : name ∈ fieldNames) :
    ∃ ms, v = .object ms ∧ field? name t = single? name ms := by
  obtain ⟨ms, ms', rfl, hparse', hfilter⟩ := Json.exists_parse?_singleton hobject hparse hname
  refine ⟨ms, rfl, ?_⟩
  rw [field?, hparse']
  exact single?_congr hfilter

/-- If a document cannot be read for the fields, there is one of them that cannot be read by
itself. -/
theorem exists_field?_eq_none (h : IsObject t) (hparse : Json.parse? fieldNames t = none) :
    ∃ name ∈ fieldNames, field? name t = none := by
  by_contra hnot
  simp only [not_exists, not_and] at hnot
  have hall : ∀ name ∈ fieldNames, ∃ v, Json.parse? [name] t = some v := by
    intro name hname
    cases hv : Json.parse? [name] t with
    | some v => exact ⟨v, rfl⟩
    | none => exact absurd (by rw [field?, hv]) (hnot name hname)
  obtain ⟨v, hv⟩ := (Json.exists_parse?_iff h).mpr hall
  rw [hparse] at hv
  cases hv

/-- **The fields of a manifest are read one by one.** -/
theorem ofDocument_eq (h : IsObject t) :
    (Json.parse? fieldNames t).bind ofJson = (field? "main" t).bind fun main =>
      (field? "exports" t).bind fun exports => (field? "type" t).bind fun kind =>
        ofFields main exports kind := by
  cases hparse : Json.parse? fieldNames t with
  | some v =>
    have hsingle : ∀ name ∈ fieldNames, ∃ ms, v = .object ms ∧ field? name t = single? name ms :=
      fun name hname => field?_eq h hparse hname
    obtain ⟨ms, rfl, hmain⟩ := hsingle "main" (by decide)
    obtain ⟨_, heq, hexports⟩ := hsingle "exports" (by decide)
    cases heq
    obtain ⟨_, heq, hkind⟩ := hsingle "type" (by decide)
    cases heq
    rw [hmain, hexports, hkind]
    rfl
  | none =>
    obtain ⟨name, hname, hfield⟩ := exists_field?_eq_none h hparse
    have hcases : name = "main".toList ∨ name = "exports".toList ∨ name = "type".toList := by
      simpa [fieldNames] using hname
    obtain rfl | rfl | rfl := hcases
    · rw [hfield]
      rfl
    · rw [hfield]
      cases field? "main" t <;> rfl
    · rw [hfield]
      cases field? "main" t with
      | none => rfl
      | some main => cases field? "exports" t <;> rfl

/-- **A document is a usable manifest** exactly if each of its fields can be read by itself, and
the two that are texts are texts. -/
theorem isSome_ofDocument_iff (h : IsObject t) :
    ((Json.parse? fieldNames t).bind ofJson).isSome = true ↔
      (∃ main, field? "main" t = some main ∧ IsOptionalText main)
        ∧ (∃ exports, field? "exports" t = some exports)
        ∧ ∃ kind, field? "type" t = some kind ∧ IsOptionalText kind := by
  rw [ofDocument_eq h]
  generalize field? "main" t = main, field? "exports" t = exports, field? "type" t = kind
  cases main with
  | none => simp
  | some main =>
    cases exports with
    | none => simp
    | some exports =>
      cases kind with
      | none => simp
      | some kind =>
        simp only [Option.bind_some, Option.some.injEq, exists_eq_left', exists_eq', true_and,
          ← isSome_textField?_iff, ofFields]
        cases textField? main with
        | none => simp
        | some main => cases textField? kind <;> simp

/-- **What a usable manifest says** is what its fields say. -/
theorem fields_of_ofDocument (h : IsObject t) {m : Manifest}
    (hm : (Json.parse? fieldNames t).bind ofJson = some m) :
    ((field? "main" t).bind textField? = some m.main)
      ∧ (field? "exports" t).map entryOf = some m.exportsEntry
      ∧ (field? "type" t).bind textField? = some m.kind := by
  rw [ofDocument_eq h] at hm
  obtain ⟨main, hmain, hm⟩ := Option.bind_eq_some_iff.mp hm
  obtain ⟨exports, hexports, hm⟩ := Option.bind_eq_some_iff.mp hm
  obtain ⟨kind, hkind, hm⟩ := Option.bind_eq_some_iff.mp hm
  obtain ⟨main', hmain', hm⟩ := Option.bind_eq_some_iff.mp hm
  obtain ⟨kind', hkind', hm⟩ := Option.bind_eq_some_iff.mp hm
  cases hm
  rw [hmain, hexports, hkind]
  exact ⟨hmain', rfl, hkind'⟩

/-! ## Two runs -/

/-- **Two documents with the same fields** of some names: both hold objects, and each of the
fields has the same value, or none that can be told. -/
structure SameFields (names : List Text) (t t' : Text) : Prop where
  object : IsObject t
  object' : IsObject t'
  fields : ∀ name ∈ names, field? name t' = field? name t

/-- **Two file systems that differ outside some fields**, and only in files that hold objects. -/
def DifferOutside (names : List Text) : FileSystem → FileSystem → Prop :=
  FileSystem.AgreeUpTo fun content content' => ∃ t t', Text.decodeUtf8? content = some t
    ∧ Text.decodeUtf8? content' = some t' ∧ SameFields names t t'

/-- **There is a usable manifest** at a path of the one if there is one in the other. -/
def UsableAlike (fs fs' : FileSystem) (p : Path) : Prop :=
  (read? fs' p).isSome = (read? fs p).isSome

/-- The manifests at a path are the same, or those of two documents with the same fields. -/
theorem DifferOutside.read?_cases (h : DifferOutside names fs fs') (p : Path) :
    read? fs' p = read? fs p
      ∨ ∃ t t', SameFields names t t' ∧ read? fs p = (Json.parse? fieldNames t).bind ofJson
        ∧ read? fs' p = (Json.parse? fieldNames t').bind ofJson := by
  obtain heq | ⟨content, content', hread, hread', t, t', ht, ht', hsame⟩ := h.readText_cases p
  · exact Or.inl (by rw [read?, read?, heq])
  · refine Or.inr ⟨t, t', hsame, ?_, ?_⟩
    · simp only [read?, FileSystem.readText, hread, ht]
    · simp only [read?, FileSystem.readText, hread', ht']

/-- Two usable manifests are the same, or those of two documents with the same fields. -/
theorem DifferOutside.read?_cases_of_usableAlike (h : DifferOutside names fs fs')
    (husable : UsableAlike fs fs' p) :
    read? fs' p = read? fs p
      ∨ ∃ t t' m m', SameFields names t t' ∧ read? fs p = some m ∧ read? fs' p = some m'
        ∧ (Json.parse? fieldNames t).bind ofJson = some m
        ∧ (Json.parse? fieldNames t').bind ofJson = some m' := by
  obtain heq | ⟨t, t', hsame, hread, hread'⟩ := h.read?_cases p
  · exact Or.inl heq
  · rw [UsableAlike] at husable
    cases hm : read? fs p with
    | none =>
      rw [hm, Option.isSome_none, Option.isSome_eq_false_iff, Option.isNone_iff_eq_none] at husable
      exact Or.inl husable
    | some m =>
      rw [hm, Option.isSome_some] at husable
      obtain ⟨m', hm'⟩ := Option.isSome_iff_exists.mp husable
      exact Or.inr ⟨t, t', m, m', hsame, rfl, hm', hread.symm.trans hm, hread'.symm.trans hm'⟩

/-- **The kind of modules** is the same in two usable manifests with the same `type`. -/
theorem DifferOutside.map_kind_eq (h : DifferOutside names fs fs')
    (hname : "type".toList ∈ names) (husable : UsableAlike fs fs' p) :
    (read? fs' p).map kind = (read? fs p).map kind := by
  obtain heq | ⟨t, t', m, m', hsame, hm, hm', hread, hread'⟩ :=
    h.read?_cases_of_usableAlike husable
  · rw [heq]
  · have hkind := (fields_of_ofDocument hsame.object hread).2.2
    have hkind' := (fields_of_ofDocument hsame.object' hread').2.2
    rw [hsame.fields _ hname] at hkind'
    rw [hm, hm', Option.map_some, Option.map_some, Option.some.inj (hkind'.symm.trans hkind)]

/-- **The entry** is the same in two usable manifests with the same `main` and `exports`. -/
theorem DifferOutside.bind_entry_eq (h : DifferOutside names fs fs')
    (hmain : "main".toList ∈ names) (hexports : "exports".toList ∈ names)
    (husable : UsableAlike fs fs' p) : (read? fs' p).bind entry = (read? fs p).bind entry := by
  obtain heq | ⟨t, t', m, m', hsame, hm, hm', hread, hread'⟩ :=
    h.read?_cases_of_usableAlike husable
  · rw [heq]
  · obtain ⟨hfield, hentry, -⟩ := fields_of_ofDocument hsame.object hread
    obtain ⟨hfield', hentry', -⟩ := fields_of_ofDocument hsame.object' hread'
    rw [hsame.fields _ hmain] at hfield'
    rw [hsame.fields _ hexports] at hentry'
    rw [hm, hm', Option.bind_some, Option.bind_some, entry, entry,
      Option.some.inj (hfield'.symm.trans hfield), Option.some.inj (hentry'.symm.trans hentry)]

/-- **The manifest** is the same where all three fields are. -/
theorem DifferOutside.read?_eq (h : DifferOutside fieldNames fs fs') (p : Path) :
    read? fs' p = read? fs p := by
  obtain heq | ⟨t, t', hsame, hread, hread'⟩ := h.read?_cases p
  · exact heq
  · rw [hread, hread', ofDocument_eq hsame.object, ofDocument_eq hsame.object',
      hsame.fields _ (by decide), hsame.fields _ (by decide), hsame.fields _ (by decide)]

end ModuleHooks.Manifest

namespace ModuleHooks.StrictHost

open Manifest

variable {fs fs' : FileSystem}

/-- Without a usable manifest the entry is the one by default. -/
theorem packageEntry_of_none {dir : Path}
    (h : Manifest.read? fs (Path.join dir "package.json") = none) :
    packageEntry fs dir = Path.join dir "index.js" := by
  rw [packageEntry, h]
  rfl

/-- **The fields of manifests are independent of each other but for one thing**, which is whether
a manifest is usable.

A document that holds an object is usable exactly if `main` and `type`, each read by itself, are
texts or missing, and `exports` can be read. File systems that agree on `type` give every path the
same format if the same manifests above it are usable; file systems that agree on `main` and
`exports` give a directory the same entry exactly if its manifest is usable in both or in neither,
or if it gives no other entry than the one by default. What else a manifest says does not
matter. -/
theorem fields_independent :
    (∀ p t, fs.readText p = .ok t → Json.IsObject t →
      ((Manifest.read? fs p).isSome = true ↔
        (∃ main, field? "main" t = some main ∧ IsOptionalText main)
          ∧ (∃ exports, field? "exports" t = some exports)
          ∧ ∃ kind, field? "type" t = some kind ∧ IsOptionalText kind))
    ∧ (DifferOutside ["type".toList] fs fs' → ∀ p,
      (∀ dir above, Path.parent? p = some dir → AtOrAbove dir above →
        UsableAlike fs fs' (Path.join above "package.json")) →
      detectFormat fs' p = detectFormat fs p)
    ∧ (DifferOutside ["main".toList, "exports".toList] fs fs' → ∀ dir,
      (packageEntry fs' dir = packageEntry fs dir ↔
        UsableAlike fs fs' (Path.join dir "package.json")
          ∨ (packageEntry fs dir = Path.join dir "index.js"
            ∧ packageEntry fs' dir = Path.join dir "index.js")))
    ∧ (DifferOutside fieldNames fs fs' →
      (∀ p, detectFormat fs' p = detectFormat fs p)
        ∧ ∀ dir, packageEntry fs' dir = packageEntry fs dir) := by
  refine ⟨fun p t htext hobject => ?_, fun h p husable => ?_, fun h dir => ⟨fun heq => ?_, ?_⟩,
    fun h => ⟨fun p => ?_, fun dir => ?_⟩⟩
  · rw [Manifest.read?, htext]
    exact isSome_ofDocument_iff hobject
  · exact detectFormat_congr fun dir above hdir habove =>
      h.map_kind_eq (by decide) (husable dir above hdir habove)
  · by_cases husable : UsableAlike fs fs' (Path.join dir "package.json")
    · exact Or.inl husable
    · -- One of the two is not usable, and gives the entry by default.
      refine Or.inr ?_
      cases hread : Manifest.read? fs (Path.join dir "package.json") with
      | none =>
        have hentry := packageEntry_of_none hread
        exact ⟨hentry, heq.trans hentry⟩
      | some m =>
        cases hread' : Manifest.read? fs' (Path.join dir "package.json") with
        | none =>
          have hentry := packageEntry_of_none hread'
          exact ⟨heq.symm.trans hentry, hentry⟩
        | some m' => exact absurd (by rw [UsableAlike, hread, hread']; rfl) husable
  · rintro (husable | ⟨hentry, hentry'⟩)
    · rw [packageEntry, packageEntry, h.bind_entry_eq (by decide) (by decide) husable]
    · rw [hentry, hentry']
  · exact detectFormat_congr fun _ above _ _ => congrArg _ (h.read?_eq _)
  · rw [packageEntry, packageEntry, h.read?_eq]

/-- A package with a manifest and a script. -/
def packageWith (manifest : Text) : FileSystem where
  nodes := [(["app".toList, "package.json".toList], .file (Text.utf8 manifest)),
    (["app".toList], .directory), (["app".toList, "a.js".toList], .file [])]

/-- Packages that differ in their manifests differ in what these differ in. -/
theorem differOutside_packageWith {names : List Text} {t t' : Text}
    (h : SameFields names t t') : DifferOutside names (packageWith t) (packageWith t') :=
  FileSystem.agreeUpTo_cons
    ⟨t, t', Text.decodeUtf8?_utf8 t, Text.decodeUtf8?_utf8 t', h⟩ _ _ _

/-- **A manifest that is spoiled by one field**: with `main` as a truth value the format is that of
a package without `type`. Another `main` leaves the format alone, and so does what else the
manifest says. -/
theorem fields_independent_spoiled :
    let sound := "\x7b\"type\":\"module\",\"main\":\"a.js\"\x7d".toList
    let spoiled := "\x7b\"type\":\"module\",\"main\":false\x7d".toList
    let renamed := "\x7b\"type\":\"module\",\"main\":\"b.js\"\x7d".toList
    let versioned := "\x7b\"type\":\"module\",\"version\":[1],\"main\":\"a.js\"\x7d".toList
    DifferOutside ["type".toList] (packageWith sound) (packageWith spoiled)
      ∧ detectFormat (packageWith sound) "/app/a.js".toList = .module
      ∧ detectFormat (packageWith spoiled) "/app/a.js".toList = .commonJs
      ∧ (Manifest.read? (packageWith spoiled) "/app/package.json".toList).isSome = false
      ∧ detectFormat (packageWith renamed) "/app/a.js".toList = .module
      ∧ packageEntry (packageWith versioned) "/app".toList
        = packageEntry (packageWith sound) "/app".toList := by
  intro sound spoiled renamed versioned
  have hsound : Json.IsObject sound := by decide +kernel
  have htype : field? "type" sound = some (.string "module".toList) :=
    field?_eq_string (by decide +kernel)
  have hmain : field? "main" sound = some (.string "a.js".toList) :=
    field?_eq_string (by decide +kernel)
  have hspoiled : DifferOutside ["type".toList] (packageWith sound) (packageWith spoiled) :=
    differOutside_packageWith
      ⟨hsound, by decide +kernel, List.forall_mem_singleton.mpr
        ((field?_eq_string (by decide +kernel)).trans htype.symm)⟩
  have hrenamed : DifferOutside ["type".toList] (packageWith sound) (packageWith renamed) :=
    differOutside_packageWith
      ⟨hsound, by decide +kernel, List.forall_mem_singleton.mpr
        ((field?_eq_string (by decide +kernel)).trans htype.symm)⟩
  have hversioned : DifferOutside fieldNames (packageWith sound) (packageWith versioned) := by
    refine differOutside_packageWith
      ⟨hsound, by decide +kernel, ?_⟩
    show ∀ name ∈ ["main".toList, "exports".toList, "type".toList],
      field? name versioned = field? name sound
    simp only [List.forall_mem_cons]
    exact ⟨(field?_eq_string (by decide +kernel)).trans hmain.symm,
      (field?_eq_null (by decide +kernel)).trans (field?_eq_null (by decide +kernel)).symm,
      (field?_eq_string (by decide +kernel)).trans htype.symm, fun _ h => nomatch h⟩
  have hformat : detectFormat (packageWith sound) "/app/a.js".toList = .module := by
    decide +kernel
  obtain ⟨husable, -⟩ := @fields_independent (packageWith spoiled) (packageWith spoiled)
  obtain ⟨-, hkind, -⟩ := @fields_independent (packageWith sound) (packageWith renamed)
  obtain ⟨-, -, -, hrest⟩ := @fields_independent (packageWith sound) (packageWith versioned)
  refine ⟨hspoiled, hformat, by decide +kernel, ?_, ?_, (hrest hversioned).2 _⟩
  · refine Bool.eq_false_iff.mpr fun h => ?_
    obtain ⟨⟨main, hmain, htext⟩, -⟩ :=
      (husable _ spoiled (by decide +kernel) (by decide +kernel)).mp h
    have hnone : (field? "main" spoiled).bind textField? = none := by decide +kernel
    rw [hmain, Option.bind_some] at hnone
    exact absurd (isSome_textField?_iff.mpr htext) (by rw [hnone]; exact Bool.false_ne_true)
  · rw [hkind hrenamed _ fun dir above hdir habove => ?_, hformat]
    obtain rfl : "/app".toList = dir := Option.some.inj (hdir ▸ by decide)
    have hall : ∀ above ∈ ancestors "/app".toList,
        (Manifest.read? (packageWith renamed) (Path.join above "package.json")).isSome
          = (Manifest.read? (packageWith sound) (Path.join above "package.json")).isSome := by
      decide +kernel
    exact hall above (mem_ancestors_iff.mpr habove)

end ModuleHooks.StrictHost
