import ModuleHooks.Proofs.Stylesheet.Composition
/-!
# Class names of one file

A value of a hashed class map begins with the scoped name of its key, in which the key is followed
by the stamp of the file. So a value is never its key, and different keys have different scoped
names.

What a class composes follows, and blanks part the names. But a name may have blanks of its own, and
nothing tells these from the others. If a key goes on after another one with the stamp and a blank,
its scoped name can be read as that of the other one and more. Whether the two values are equal then
depends on what the classes compose, and in no other case are they (`value_eq_value_iff`). Therefore
the values of a class map differ where its keys have no blanks (`nodup_values`).
-/

namespace ModuleHooks

/-! ## Stamps -/

namespace Hash

theorem digit64_ne_blank (n : Nat) : digit64 n ≠ ' ' := by
  have hsmall : ∀ n < 26, Char.ofNat (97 + n) ≠ ' ' := by decide
  have hcapital : ∀ n < 52, Char.ofNat (39 + n) = ' ' → n < 26 := by decide
  have hnumber : ∀ n < 61, Char.ofNat (n - 3) = ' ' → n < 52 := by decide
  unfold digit64
  split_ifs with h26 h52 h61 h h'
  · exact hsmall n h26
  · exact fun hblank => h26 (hcapital n h52 hblank)
  · exact fun hblank => h52 (hnumber n h61 hblank)
  · decide
  · decide
  · decide

/-- There is no blank in a mark. -/
theorem blank_notMem_mark (t : Text) : ' ' ∉ mark t := by
  intro h
  obtain ⟨n, -, hn⟩ := List.mem_map.mp h
  exact digit64_ne_blank n hn

end Hash

/-- **Where a stamp is found again**: if a text begins with a stamp and has it again after a front,
then the whole stamp stands in the front, and what follows it there is the character that parts. -/
theorem Text.exists_of_stamped_eq {c : Char} {stamp front tail tail' : Text} (hc : c ∉ stamp)
    (hstamp : stamp ≠ []) (htail : ∀ d ∈ tail.head?, d = c) (hfront : front ≠ [])
    (h : stamp ++ tail = front ++ (stamp ++ tail')) :
    ∃ u, front = stamp ++ c :: u ∧ tail = c :: u ++ (stamp ++ tail') := by
  rcases List.append_eq_append_iff.mp h with ⟨more, rfl, hmore⟩ | ⟨rest, rfl, hrest⟩
  · cases more with
    | nil =>
      obtain ⟨d, stamp, rfl⟩ := List.exists_cons_of_ne_nil hstamp
      obtain rfl : d = c := htail d (by rw [hmore]; rfl)
      exact absurd List.mem_cons_self hc
    | cons d u =>
      obtain rfl : d = c := htail d (by rw [hmore]; rfl)
      exact ⟨u, rfl, hmore⟩
  -- Otherwise the second stamp begins within the first one and goes on behind it, so that the
  -- character that parts stands in it.
  · have hpos := List.length_pos_of_ne_nil hfront
    cases tail with
    | nil =>
      have hlength := congrArg List.length hrest
      simp only [List.length_append, List.length_nil] at hlength
      omega
    | cons d tail =>
      obtain rfl : d = c := htail d rfl
      have hget : (front ++ rest ++ tail')[rest.length]? = some d := by
        rw [hrest, List.getElem?_append_right le_rfl, Nat.sub_self, List.getElem?_cons_zero]
      rw [List.getElem?_append_left (by rw [List.length_append]; omega)] at hget
      exact absurd (List.mem_of_getElem? hget) hc

/-! ## Values -/

/-- **The stamp of a file** behind its hashed names. -/
def Css.Scoping.stamp (s : Css.Scoping) : Text := "___".toList ++ Hash.mark s.filename

namespace Css.Scoping

theorem blank_notMem_stamp (s : Scoping) : ' ' ∉ s.stamp := by
  rw [stamp, List.mem_append]
  exact not_or_intro (by decide) (Hash.blank_notMem_mark s.filename)

theorem stamp_ne_nil (s : Scoping) : s.stamp ≠ [] :=
  List.append_ne_nil_of_left_ne_nil (by decide) _

/-- **A hashed name** is the local name between the name of the file and its stamp. -/
theorem scopedName_stamped (filename : Path) (x : Text) :
    (ofNaming .hashed filename).scopedName x
      = (ofNaming .hashed filename).fileName ++ "__".toList
        ++ (x ++ (ofNaming .hashed filename).stamp) := by
  have hfilename : (ofNaming .hashed filename).filename = filename := rfl
  rw [scopedName_hashed, stamp, hfilename]
  simp only [List.append_assoc]

/-- **Scoped names are told apart**: different local names have different ones. -/
theorem scopedName_injective (filename : Path) :
    Function.Injective (ofNaming .hashed filename).scopedName := by
  intro x y h
  rw [scopedName_stamped, scopedName_stamped] at h
  exact List.append_cancel_right (List.append_cancel_left h)

end Css.Scoping

namespace ClassMap

/-- **What follows the scoped name in a value**: each name that is composed, and a blank in front of
it. -/
def trail (references : List Css.Reference) : Text :=
  (references.map Css.Reference.name).flatMap fun n => ' ' :: n

theorem value_eq (e : Css.Export) : value e = e.name ++ trail e.composes := by
  rw [value, trail]
  cases e.composes.map Css.Reference.name with
  | nil => rw [Text.join_singleton, List.flatMap_nil, List.append_nil]
  | cons n names =>
    rw [← Text.cons_join ' ' (List.cons_ne_nil n names),
      Text.join_cons e.name (List.cons_ne_nil n names), List.append_assoc]
    rfl

theorem eq_of_mem_head?_trail {references : List Css.Reference} :
    ∀ d ∈ (trail references).head?, d = ' ' := by
  cases references with
  | nil => exact fun d hd => absurd hd (Option.not_mem_none d)
  | cons r references => exact fun d hd => (Option.some.inj hd).symm

/-- **A class that can be read as another one**: the local name goes on after the other one with the
stamp of the file, a blank and more, and what the other one composes is this more, stamped, and what
the class composes itself. -/
def ReadsAs (s : Css.Scoping) (y : Text) (references' : List Css.Reference) (x : Text)
    (references : List Css.Reference) : Prop :=
  ∃ more, y = x ++ s.stamp ++ ' ' :: more
    ∧ trail references = ' ' :: more ++ s.stamp ++ trail references'

section Values

variable {filename : Path} {x y : Text} {references references' : List Css.Reference}

/-- The value of a class with a hashed name, from the part that all classes of the file share. -/
theorem value_stamped (filename : Path) (x : Text) (references : List Css.Reference) :
    value { name := (Css.Scoping.ofNaming .hashed filename).scopedName x, composes := references }
      = (Css.Scoping.ofNaming .hashed filename).fileName ++ "__".toList
        ++ (x ++ ((Css.Scoping.ofNaming .hashed filename).stamp ++ trail references)) := by
  rw [value_eq, Css.Scoping.scopedName_stamped]
  simp only [List.append_assoc]

/-- The value of a class is that of each one it can be read as. -/
theorem ReadsAs.value_eq (h : ReadsAs (.ofNaming .hashed filename) y references' x references) :
    value { name := (Css.Scoping.ofNaming .hashed filename).scopedName y, composes := references' }
      = value { name := (Css.Scoping.ofNaming .hashed filename).scopedName x,
                composes := references } := by
  obtain ⟨more, rfl, htrail⟩ := h
  rw [value_stamped, value_stamped, htrail]
  simp only [List.append_assoc]

/-- A class whose name is a longer one can be read as the other, if the two values go on alike. -/
theorem readsAs_of_append_eq {more : Text} (hmore : more ≠ [])
    (h : (Css.Scoping.ofNaming .hashed filename).stamp ++ trail references
      = more ++ ((Css.Scoping.ofNaming .hashed filename).stamp ++ trail references')) :
    ReadsAs (.ofNaming .hashed filename) (x ++ more) references' x references := by
  obtain ⟨u, rfl, htrail⟩ := Text.exists_of_stamped_eq (Css.Scoping.blank_notMem_stamp _)
    (Css.Scoping.stamp_ne_nil _) eq_of_mem_head?_trail hmore h
  exact ⟨u, (List.append_assoc ..).symm, htrail.trans (List.append_assoc ..).symm⟩

/-- **Two classes with one value**: one of them can be read as the other. -/
theorem value_eq_value_iff (hne : x ≠ y) :
    value { name := (Css.Scoping.ofNaming .hashed filename).scopedName x, composes := references }
        = value { name := (Css.Scoping.ofNaming .hashed filename).scopedName y,
                  composes := references' }
      ↔ ReadsAs (.ofNaming .hashed filename) y references' x references
        ∨ ReadsAs (.ofNaming .hashed filename) x references y references' := by
  refine ⟨fun h => ?_, fun h => h.elim (fun h => h.value_eq.symm) (fun h => h.value_eq)⟩
  rw [value_stamped, value_stamped] at h
  -- The longer of the two names begins with the other one.
  rcases List.append_eq_append_iff.mp (List.append_cancel_left h) with
    ⟨more, rfl, heq⟩ | ⟨more, rfl, heq⟩
  · exact Or.inl (readsAs_of_append_eq (fun hnil => hne (by rw [hnil, List.append_nil])) heq)
  · exact Or.inr (readsAs_of_append_eq (fun hnil => hne (by rw [hnil, List.append_nil])) heq)

end Values

end ClassMap

namespace Stylesheet

open ClassMap

variable {c : Config} {draws : Sass.Draws} {fs : FileSystem} {p : Path} {s : CompiledStylesheet}

/-- **The values of a hashed class map** that has the local names for keys. -/
theorem exists_values (hnaming : c.classNaming = .hashed) (hc : c.localsConvention = .asIs)
    (hs : (compile c draws fs p).value = .ok s) (hscope : s.scope = .scoped) :
    ∃ filename sheet, scopedSheet? c draws fs s.path = some (.ofNaming .hashed filename, sheet)
      ∧ (s.classNames.map Prod.fst).Nodup
      ∧ ∀ k v, (k, v) ∈ s.classNames → v = value
        { name := (Css.Scoping.ofNaming .hashed filename).scopedName k,
          composes :=
            (Css.Scoping.ofNaming .hashed filename).references k (sheet.write true) } := by
  have hnodup : (s.classNames.map Prod.fst).Nodup := by
    obtain ⟨-, -, -, exports, -, -, hclassNames, -⟩ := exists_exports hs hscope
    rw [hclassNames]
    exact (isSorted_ofExports _ exports).nodup
  obtain ⟨filename, sheet, hsheet, hlookup⟩ := lookup?_classNames hc hs hscope
  rw [hnaming] at hsheet hlookup
  refine ⟨filename, sheet, hsheet, hnodup, fun k v hmem => ?_⟩
  exact eq_value_of_exported ((hlookup k).symm.trans ((Text.lookup?_eq_some_iff hnodup).mpr hmem))

/-- **Where no key has a blank, no two values are equal.** -/
theorem nodup_values (hnaming : c.classNaming = .hashed) (hc : c.localsConvention = .asIs)
    (hs : (compile c draws fs p).value = .ok s) (hscope : s.scope = .scoped)
    (hblank : ∀ k ∈ s.classNames.map Prod.fst, ' ' ∉ k) : (s.classNames.map Prod.snd).Nodup := by
  obtain ⟨filename, sheet, -, hnodup, hvalues⟩ := exists_values hnaming hc hs hscope
  have hnot : ∀ {scoping : Css.Scoping} {x y : Text} {references references'},
      y ∈ s.classNames.map Prod.fst → ¬ReadsAs scoping y references' x references := by
    rintro scoping x y references references' hy ⟨more, rfl, -⟩
    exact hblank _ hy (List.mem_append_right _ List.mem_cons_self)
  refine List.Nodup.map_on (fun e he e' he' heq => ?_) hnodup.of_map
  by_contra hne
  have hkeys : e.1 ≠ e'.1 := fun hkey => hne (Prod.ext hkey heq)
  rw [hvalues e.1 e.2 he, hvalues e'.1 e'.2 he', value_eq_value_iff hkeys] at heq
  exact heq.elim (hnot (List.mem_map_of_mem he')) (hnot (List.mem_map_of_mem he))

/-- **Exported class names are told apart**, but for classes that can be read as others.

Let a stylesheet be compiled whose class names are scoped and hashed, with the local names for keys.
Then a value is the scoped name of its key and what is composed, and it is not the key. Different
keys have different scoped names. Their values are equal exactly if one of the classes can be read
as the other: if one key goes on after the other with the stamp of the file and a blank, and the
other class composes what makes up for it. -/
theorem compile_values (hnaming : c.classNaming = .hashed) (hc : c.localsConvention = .asIs)
    (hs : (compile c draws fs p).value = .ok s) (hscope : s.scope = .scoped) :
    ∃ scoping sheet, scopedSheet? c draws fs s.path = some (scoping, sheet)
      ∧ (∀ k v, (k, v) ∈ s.classNames →
        v = Text.join " " (scoping.scopedName k ::
            (scoping.references k (sheet.write true)).map Css.Reference.name)
          ∧ v ≠ k)
      ∧ ∀ k v k' v', (k, v) ∈ s.classNames → (k', v') ∈ s.classNames → k ≠ k' →
        scoping.scopedName k ≠ scoping.scopedName k'
          ∧ (v = v' ↔
            ReadsAs scoping k' (scoping.references k' (sheet.write true))
                k (scoping.references k (sheet.write true))
              ∨ ReadsAs scoping k (scoping.references k (sheet.write true))
                k' (scoping.references k' (sheet.write true))) := by
  obtain ⟨filename, sheet, hsheet, -, hvalues⟩ := exists_values hnaming hc hs hscope
  refine ⟨_, sheet, hsheet, fun k v hmem => ⟨hvalues k v hmem, ?_⟩, fun k v k' v' hmem hmem' hne =>
    ⟨fun h => hne (Css.Scoping.scopedName_injective filename h), ?_⟩⟩
  · -- The value is longer than its key.
    intro hv
    have hlength := congrArg List.length ((hvalues k v hmem).symm.trans hv)
    have hpos := List.length_pos_of_ne_nil (Css.Scoping.ofNaming .hashed filename).stamp_ne_nil
    rw [value_stamped] at hlength
    simp only [List.length_append] at hlength
    omega
  · rw [hvalues k v hmem, hvalues k' v' hmem', value_eq_value_iff hne]

/-- A project with a stylesheet in which the name of a class goes on after that of another one with
the stamp of the file, a blank and the beginning of what that one composes. -/
def likened : FileSystem where
  nodes := [(["app".toList], .directory),
    (["app".toList, "x.module.css".toList], .file (Text.utf8
      ".a\x7bcomposes:b\x7d .a___r_n-va\\ x-module__b\x7b\x7d .c\x7bcomposes:b\x7d".toList))]

/-- The classes of the stylesheet: the first one has the same value as the second one. -/
theorem exists_value_compile_likened :
    ∃ s, (compile {} Sass.noughts likened "/app/x.module.css".toList).value = .ok s
      ∧ s.path = "/app/x.module.css".toList ∧ s.scope = .scoped
      ∧ s.classNames = [("a".toList, "x-module__a___r_n-va x-module__b___r_n-va".toList),
        ("a___r_n-va x-module__b".toList, "x-module__a___r_n-va x-module__b___r_n-va".toList),
        ("c".toList, "x-module__c___r_n-va x-module__b___r_n-va".toList)] :=
  @exists_value_compile_of_classes _ _ _ _ (.ofNaming .hashed "/app/x.module.css".toList)
    [("a".toList, [.composes ["b".toList] none false ⟨0, 13⟩]),
      ("a___r_n-va x-module__b".toList, []),
      ("c".toList, [.composes ["b".toList] none false ⟨0, 55⟩])] _
    (by decide +kernel) (by decide) (by decide +kernel) (by decide +kernel)

/-- **The law at the stylesheet**: of the two classes with one value, one can be read as the other,
though they have different scoped names. The third one cannot be read as the first, nor the first as
the third. -/
theorem compile_values_likened :
    ∃ s, (compile {} Sass.noughts likened "/app/x.module.css".toList).value = .ok s
      ∧ ∃ scoping sheet, scopedSheet? {} Sass.noughts likened s.path = some (scoping, sheet)
        ∧ scoping.scopedName "a".toList ≠ scoping.scopedName "a___r_n-va x-module__b".toList
        ∧ ReadsAs scoping
          "a___r_n-va x-module__b".toList
            (scoping.references "a___r_n-va x-module__b".toList (sheet.write true))
          "a".toList (scoping.references "a".toList (sheet.write true))
        ∧ ¬ReadsAs scoping "c".toList (scoping.references "c".toList (sheet.write true))
          "a".toList (scoping.references "a".toList (sheet.write true))
        ∧ ¬ReadsAs scoping "a".toList (scoping.references "a".toList (sheet.write true))
          "c".toList (scoping.references "c".toList (sheet.write true)) := by
  obtain ⟨s, hs, -, hscope, hm⟩ := exists_value_compile_likened
  obtain ⟨scoping, sheet, hsheet, -, hlaw⟩ := compile_values rfl rfl hs hscope
  rw [hm] at hlaw
  obtain ⟨hnames, hequal⟩ :=
    hlaw _ _ _ _ List.mem_cons_self (List.mem_cons_of_mem _ List.mem_cons_self) (by decide)
  obtain ⟨-, hdiffer⟩ := hlaw "a".toList _ "c".toList _ List.mem_cons_self
    (List.mem_cons_of_mem _ (List.mem_cons_of_mem _ List.mem_cons_self)) (by decide)
  have hnot := mt hdiffer.mpr (by decide)
  refine ⟨s, hs, scoping, sheet, hsheet, hnames, ?_, fun h => hnot (Or.inl h),
    fun h => hnot (Or.inr h)⟩
  refine (hequal.mp rfl).resolve_right fun ⟨more, hmore, _⟩ => ?_
  -- The shorter name does not go on after the longer one.
  have hlength := congrArg List.length hmore
  simp only [List.length_append] at hlength
  have hshort : "a".toList.length < "a___r_n-va x-module__b".toList.length := by decide
  omega

/-- **Different keys may have one value**: a blank in a class name is not told from a blank between
two names. -/
theorem not_forall_values_ne :
    ¬∀ (c : Config) (draws : Sass.Draws) (fs : FileSystem) (p : Path) (s : CompiledStylesheet),
      c.classNaming = .hashed → c.localsConvention = .asIs →
      (compile c draws fs p).value = .ok s → s.scope = .scoped →
      (∀ k v, (k, v) ∈ s.classNames → v ≠ k)
        ∧ ∀ k v k' v', (k, v) ∈ s.classNames → (k', v') ∈ s.classNames → k ≠ k' → v ≠ v' := by
  intro h
  obtain ⟨s, hs, -, hscope, hm⟩ := exists_value_compile_likened
  obtain ⟨-, hvalues⟩ := h {} Sass.noughts likened _ s rfl rfl hs hscope
  rw [hm] at hvalues
  exact hvalues _ _ _ _ List.mem_cons_self (List.mem_cons_of_mem _ List.mem_cons_self) (by decide)
    rfl

end Stylesheet

end ModuleHooks
