import ModuleHooks.Proofs.Css.Composition
import ModuleHooks.Proofs.Stylesheet.ClassMap
import ModuleHooks.Proofs.Stylesheet.Sibling
import ModuleHooks.Proofs.Text.Pieces
/-!
# Composed classes in the class map

The value of a class in the class map is its scoped name and the names of its references, one
after the other (`lookup?_classNames`). Nothing follows the references any further, and this
has two consequences for those who apply all names of the value to an element.

A class that composes a class of the same file gets the scoped name of that class, but not
what that class composes in turn: the names are all there exactly if the composing class
refers to each of them itself (`compile_composes_iff`). And a class that is composed from
another file is there by its local name, which is never the name that the class has in the CSS
of that file (`compile_composes_from`).
-/

namespace ModuleHooks

/-! ## Scoped names -/

namespace Css.Scoping

/-- **A hashed name** ends with the mark of its file. -/
theorem scopedName_hashed (filename : Path) (x : Text) :
    (ofNaming .hashed filename).scopedName x
      = (ofNaming .hashed filename).fileName ++ "__".toList ++ x ++ "___".toList
        ++ Hash.mark filename := by
  have htemplate : (ofNaming .hashed filename).template
      = [.name, .literal "__".toList, .local, .literal "___".toList, .hash] := rfl
  rw [scopedName, htemplate]
  simp [segment, ofNaming]

/-- The scoped name of a local name has the local name in it, and more. -/
theorem exists_scopedName_eq (naming : ClassNaming) (filename : Path) :
    ∃ before after : Text, before ≠ [] ∧
      ∀ x, (ofNaming naming filename).scopedName x = before ++ x ++ after := by
  cases naming with
  | hashed =>
    refine ⟨(ofNaming .hashed filename).fileName ++ "__".toList,
      "___".toList ++ Hash.mark filename, by simp, fun x => ?_⟩
    rw [scopedName_hashed, List.append_assoc _ _ (Hash.mark filename)]
  | plain =>
    have htemplate : (ofNaming .plain filename).template
        = [.name, .literal "__".toList, .local] := rfl
    refine ⟨(ofNaming .plain filename).fileName ++ "__".toList, [], by simp, fun x => ?_⟩
    rw [scopedName, htemplate]
    simp [segment]

/-- **No local name is its own scoped name.** -/
theorem ne_scopedName (naming : ClassNaming) (filename : Path) (x : Text) :
    x ≠ (ofNaming naming filename).scopedName x := by
  obtain ⟨before, after, hne, hscoped⟩ := exists_scopedName_eq naming filename
  intro h
  have hlength := congrArg List.length h
  rw [hscoped, List.length_append, List.length_append] at hlength
  have := List.length_pos_of_ne_nil hne
  omega

end Css.Scoping

/-- **The exports of a scoped stylesheet** are those of its rules, name by name. -/
theorem Css.exists_sheet_of_transform {css : Text} {filename : Path} {naming : ClassNaming}
    {output : Output} (h : transform css filename (some naming) = .ok output) :
    ∃ sheet rest, Reading.sheet true (Stream.ofText css) = .ok (sheet, rest)
      ∧ (output.exports.map Prod.fst).Nodup
      ∧ ∀ name, Text.lookup? name output.exports
        = (Scoping.ofNaming naming filename).exported name (sheet.write true) := by
  unfold transform at h
  dsimp only [Option.isSome_some, Option.map_some] at h
  split at h
  · cases h
  · next sheet rest hsheet =>
    split at h
    · cases h
    · next texts exports hrender =>
      cases h
      exact ⟨sheet, rest, hsheet, Scoping.nodup_render hrender List.nodup_nil,
        fun name => Scoping.lookup?_render hrender⟩

namespace ClassMap

/-! ## The names of a value -/

/-- **The names that a value of a class map stands for**, parted by spaces. -/
def names (v : Text) : List Text := (Text.splitOn ' ' v).filter fun n => n != []

/-- The names of a join are the names of its parts. -/
theorem mem_names_join_iff {parts : List Text} {n : Text} :
    n ∈ names (Text.join " " parts) ↔ ∃ t ∈ parts, n ∈ names t := by
  induction parts with
  | nil => simp [names, Text.join, Text.splitOn]
  | cons t parts ih =>
    cases parts with
    | nil =>
      rw [Text.join_singleton]
      simp
    | cons t' parts =>
      have hsplit : Text.splitOn ' ' (Text.join " " (t :: t' :: parts))
          = Text.splitOn ' ' t ++ Text.splitOn ' ' (Text.join " " (t' :: parts)) := by
        rw [Text.join_cons t (List.cons_ne_nil t' parts), List.append_assoc]
        exact Text.splitOn_append_cons ' ' t _
      rw [names, hsplit, List.filter_append, List.mem_append, List.exists_mem_cons_iff]
      exact or_congr_right ih

/-- **The names of an export**: those of its scoped name and of its references. -/
theorem mem_names_value_iff {e : Css.Export} {n : Text} :
    n ∈ names (value e) ↔ n ∈ names e.name ∨ ∃ r ∈ e.composes, n ∈ names r.name := by
  rw [value, mem_names_join_iff, List.exists_mem_cons_iff]
  simp only [List.mem_map, exists_exists_and_eq_and]

/-- **The value of an exported class** is that of its scoped name and its references. -/
theorem eq_value_of_exported {scoping : Css.Scoping} {name v : Text} {w : Css.Written}
    (h : (scoping.exported name w).map value = some v) :
    v = value { name := scoping.scopedName name, composes := scoping.references name w } := by
  obtain ⟨e, he, rfl⟩ := Option.map_eq_some_iff.mp h
  rcases scoping.exported_eq_none_or name w with hnone | hsome
  · rw [hnone] at he
    cases he
  · rw [Option.some.inj (he.symm.trans hsome)]

end ClassMap

namespace Stylesheet

open ClassMap

variable {c : Config} {draws : Sass.Draws} {fs : FileSystem} {p q : Path} {s : CompiledStylesheet}

/-- **The rules of the stylesheet in a file**, read as those of a scoped one, and the scoping
of its names. -/
def scopedSheet? (c : Config) (draws : Sass.Draws) (fs : FileSystem) (p : Path) :
    Option (Css.Scoping × Css.Sheet) :=
  match readCss draws fs p with
  | .ok (.ok (css, filename)) =>
    match Css.Reading.sheet true (Css.Stream.ofText css) with
    | .ok (sheet, _) => some (.ofNaming c.classNaming filename, sheet)
    | .error _ => none
  | _ => none

/-- What is compiled has been read as CSS, and the CSS has been transformed. -/
theorem exists_readCss (hs : (compile c draws fs p).value = .ok s) :
    ∃ css filename, readCss draws fs s.path = .ok (.ok (css, filename))
      ∧ transform s.scope c.classNaming c.localsConvention css filename
        = .ok (s.css, s.classNames) := by
  obtain ⟨q, hq⟩ := exists_source (p := p) (by rw [hs]; exact fun h => by cases h)
  have hfound : (compileFound c draws fs (Scope.ofPath p) q).value = .ok s :=
    (value_compile hq).symm.trans hs
  unfold compileFound compileFile at hfound
  rw [Logged.value_noted] at hfound
  cases hread : readCss draws fs q with
  | error why =>
    rw [hread] at hfound
    cases hfound
  | ok read =>
    cases read with
    | error reason =>
      rw [hread] at hfound
      cases hfound
    | ok read =>
      cases htransform : transform (Scope.ofPath p) c.classNaming c.localsConvention read.1
          read.2 with
      | error reason =>
        rw [hread] at hfound
        dsimp only at hfound
        rw [htransform] at hfound
        cases hfound
      | ok out =>
        rw [hread] at hfound
        dsimp only at hfound
        rw [htransform] at hfound
        cases hfound
        exact ⟨read.1, read.2, hread, htransform⟩

/-- **The class map of a scoped stylesheet** is that of the exports of its rules. -/
theorem exists_exports (hs : (compile c draws fs p).value = .ok s) (hscope : s.scope = .scoped) :
    ∃ css filename sheet exports, readCss draws fs s.path = .ok (.ok (css, filename))
      ∧ scopedSheet? c draws fs s.path = some (.ofNaming c.classNaming filename, sheet)
      ∧ s.classNames = ofExports c.localsConvention exports
      ∧ (exports.map Prod.fst).Nodup
      ∧ ∀ name, Text.lookup? name exports
        = (Css.Scoping.ofNaming c.classNaming filename).exported name (sheet.write true) := by
  obtain ⟨css, filename, hread, htransform⟩ := exists_readCss hs
  rw [hscope] at htransform
  obtain ⟨output, houtput, hclassNames⟩ : ∃ output,
      Css.transform css filename (some c.classNaming) = .ok output
        ∧ s.classNames = ofExports c.localsConvention output.exports := by
    unfold transform at htransform
    dsimp only at htransform
    split at htransform
    · next output houtput =>
      exact ⟨output, houtput, (Prod.mk.inj (Except.ok.inj htransform)).2.symm⟩
    · cases htransform
  obtain ⟨sheet, rest, hsheet, hnodup, hexports⟩ := Css.exists_sheet_of_transform houtput
  refine ⟨css, filename, sheet, output.exports, hread, ?_, hclassNames, hnodup, hexports⟩
  rw [scopedSheet?, hread]
  dsimp only
  rw [hsheet]

/-- **The class map of a compiled stylesheet** is told from its rules: the value of a class is
that of its export. -/
theorem lookup?_classNames (hc : c.localsConvention = .asIs)
    (hs : (compile c draws fs p).value = .ok s) (hscope : s.scope = .scoped) :
    ∃ filename sheet,
      scopedSheet? c draws fs s.path = some (.ofNaming c.classNaming filename, sheet)
      ∧ ∀ name, Text.lookup? name s.classNames
        = ((Css.Scoping.ofNaming c.classNaming filename).exported name (sheet.write true)).map
            value := by
  obtain ⟨-, filename, sheet, exports, -, hsheet, hclassNames, hnodup, hexports⟩ :=
    exists_exports hs hscope
  refine ⟨filename, sheet, hsheet, fun name => ?_⟩
  rw [hclassNames, hc, ofExports_asIs, Text.lookup?_map fun _ => value, ← hexports]
  refine congrArg (Option.map value) (Option.ext fun e => ?_)
  rw [Text.lookup?_eq_some_iff (isSorted_sorted _).nodup, mem_sorted_iff hnodup,
    Text.lookup?_eq_some_iff hnodup]

/-- **A class that composes a class of the same file has its names** exactly if it refers to
them itself.

For a scoped stylesheet whose class map has the local names for keys, let a class compose
another one of the file. Then its value is its scoped name and the names of its own references,
and it has the scoped name of the other class. Of the other names in the value of that class
it has those that it has by its own references, and no more: what the other class composes is
not followed. -/
theorem compile_composes_iff {c : Config} {draws : Sass.Draws} {fs : FileSystem} {p : Path}
    {s : CompiledStylesheet}
    (hc : c.localsConvention = .asIs) (hs : (compile c draws fs p).value = .ok s)
    (hscope : s.scope = .scoped) :
    ∃ scoping sheet, scopedSheet? c draws fs s.path = some (scoping, sheet) ∧
      ∀ a b, sheet.Composes a b none → ∀ vb, Text.lookup? b s.classNames = some vb →
        ∃ va, Text.lookup? a s.classNames = some va
          ∧ va = Text.join " " (scoping.scopedName a ::
            (scoping.references a (sheet.write true)).map Css.Reference.name)
          ∧ (∀ n ∈ names (scoping.scopedName b), n ∈ names va)
          ∧ ((∀ n ∈ names vb, n ∈ names va) ↔
            ∀ r ∈ scoping.references b (sheet.write true), ∀ n ∈ names r.name,
              n ∈ names (scoping.scopedName a)
                ∨ ∃ r' ∈ scoping.references a (sheet.write true), n ∈ names r'.name) := by
  obtain ⟨filename, sheet, hsheet, hlookup⟩ := lookup?_classNames hc hs hscope
  obtain ⟨scoping, hscoping⟩ : ∃ scoping, Css.Scoping.ofNaming c.classNaming filename = scoping :=
    ⟨_, rfl⟩
  rw [hscoping] at hsheet hlookup
  refine ⟨scoping, sheet, hsheet, fun a b hcomposes vb hvb => ?_⟩
  have hva := hlookup a
  rw [Css.Sheet.exported_of_composes hcomposes scoping, Option.map_some] at hva
  obtain rfl := eq_value_of_exported ((hlookup b).symm.trans hvb)
  -- The reference to the other class is its scoped name.
  have hown : ∀ n ∈ names (scoping.scopedName b), n ∈ names (value
      { name := scoping.scopedName a, composes := scoping.references a (sheet.write true) }) :=
    fun n hn => mem_names_value_iff.mpr
      (Or.inr ⟨_, Css.Sheet.reference_mem_of_composes hcomposes scoping, hn⟩)
  refine ⟨_, hva, rfl, hown, fun h r hr n hn => ?_, fun h n hn => ?_⟩
  · exact mem_names_value_iff.mp (h n (mem_names_value_iff.mpr (Or.inr ⟨r, hr, hn⟩)))
  · rcases mem_names_value_iff.mp hn with hn | ⟨r, hr, hn⟩
    · exact hown n hn
    · exact mem_names_value_iff.mpr (h r hr n hn)

/-- Class names without a mark of the path. -/
def unmarked : Config := { classNaming := .plain }

/-- A project with a stylesheet in which a class composes another one that composes a third, and
with a stylesheet that takes a class of it. -/
def composed : FileSystem where
  nodes := [(["app".toList], .directory),
    (["app".toList, "x.module.css".toList],
      .file (Text.utf8 ".b\x7bcomposes:c\x7d .a\x7bcomposes:b\x7d".toList)),
    (["app".toList, "y.module.css".toList],
      .file (Text.utf8 ".d\x7bcomposes:b from './x.module.css'\x7d".toList))]

/-- **A stylesheet with rules of one class each compiles** if what is written of them can be
rendered, and then its class map is that of the exports. -/
theorem exists_value_compile_of_classes {scoping : Css.Scoping}
    {l : List (Text × List Css.Declaration)} {m : ClassMap} (hfile : fs.isFile p = true)
    (hscope : Scope.ofPath p = .scoped)
    (hsheet : (scopedSheet? c draws fs p).any (fun read => decide (read.1 = scoping
      ∧ read.2.comments = [] ∧ read.2.rules.map Css.Rule.class? = l.map some)) = true)
    (hrender : (Css.Scoping.render (some scoping) []
      (Css.Rule.writeClasses l ++ [.text ['\n']])).map (fun out =>
        ofExports c.localsConvention out.2) = .ok m) :
    ∃ s, (compile c draws fs p).value = .ok s ∧ s.path = p ∧ s.scope = .scoped
      ∧ s.classNames = m := by
  obtain ⟨⟨_, sheet⟩, hread, hshape⟩ := (Option.any_eq_true _ _).mp hsheet
  obtain ⟨rfl, hcomments, hrules⟩ := of_decide_eq_true hshape
  have hwrite : sheet.write true = Css.Rule.writeClasses l ++ [.text ['\n']] := by
    rw [Css.Sheet.write, hcomments, Css.Rule.eq_map_ofClass hrules, Css.Rule.writeAll_ofClass]
    rfl
  rw [← hwrite] at hrender
  unfold scopedSheet? at hread
  split at hread
  · next css filename hcss =>
    split at hread
    · next sheet' rest hreading =>
      cases hread
      rw [value_compile (value_findSource_of_isFile hfile), value_compileFound hcss, hscope]
      unfold transform Css.transform
      dsimp only [Option.isSome_some, Option.map_some]
      rw [hreading]
      dsimp only
      cases hout : Css.Scoping.render (some (.ofNaming c.classNaming filename)) []
          (sheet.write true) with
      | error f =>
        rw [hout] at hrender
        cases hrender
      | ok out =>
        rw [hout] at hrender
        cases hrender
        exact ⟨_, rfl, rfl, rfl, rfl⟩
    · cases hread
  · cases hread

/-- The stylesheet with the two compositions. -/
theorem exists_value_compile_composed :
    ∃ s, (compile unmarked Sass.noughts composed "/app/x.module.css".toList).value = .ok s
      ∧ s.path = "/app/x.module.css".toList ∧ s.scope = .scoped
      ∧ s.classNames = [("a".toList, "x-module__a x-module__b".toList),
        ("b".toList, "x-module__b x-module__c".toList)] :=
  @exists_value_compile_of_classes _ _ _ _ (.ofNaming .plain "/app/x.module.css".toList)
    [("b".toList, [.composes ["c".toList] none false ⟨0, 13⟩]),
      ("a".toList, [.composes ["b".toList] none false ⟨0, 28⟩])] _
    (by decide +kernel) (by decide) (by decide +kernel) (by decide +kernel)

/-- **The law at a chain**: the first class does not refer to the last one, and so an element
with all its names has no style of the last one. -/
theorem compile_composes_iff_chain :
    ∃ s, (compile unmarked Sass.noughts composed "/app/x.module.css".toList).value = .ok s
      ∧ Text.lookup? "b".toList s.classNames = some "x-module__b x-module__c".toList
      ∧ Text.lookup? "a".toList s.classNames = some "x-module__a x-module__b".toList
      ∧ ∃ scoping sheet, scopedSheet? unmarked Sass.noughts composed s.path = some (scoping, sheet)
        ∧ sheet.Composes "a".toList "b".toList none ∧ sheet.Composes "b".toList "c".toList none
        ∧ ¬∀ r ∈ scoping.references "b".toList (sheet.write true), ∀ n ∈ names r.name,
          n ∈ names (scoping.scopedName "a".toList)
            ∨ ∃ r' ∈ scoping.references "a".toList (sheet.write true), n ∈ names r'.name := by
  obtain ⟨s, hs, hpath, hscope, hm⟩ := exists_value_compile_composed
  have hcomposes : (scopedSheet? unmarked Sass.noughts composed
      "/app/x.module.css".toList).all (fun read =>
      decide (read.2.Composes "a".toList "b".toList none
        ∧ read.2.Composes "b".toList "c".toList none)) = true := by decide +kernel
  have ha : Text.lookup? "a".toList s.classNames = some "x-module__a x-module__b".toList := by
    rw [hm]
    decide
  have hb : Text.lookup? "b".toList s.classNames = some "x-module__b x-module__c".toList := by
    rw [hm]
    decide
  obtain ⟨scoping, sheet, hsheet, law⟩ := compile_composes_iff rfl hs hscope
  rw [← hpath, hsheet, Option.all_some, decide_eq_true_iff] at hcomposes
  obtain ⟨va, hva, -, -, hnames⟩ := law _ _ hcomposes.1 _ hb
  obtain rfl : va = "x-module__a x-module__b".toList := Option.some.inj (hva.symm.trans ha)
  exact ⟨s, hs, hb, ha, scoping, sheet, hsheet, hcomposes.1, hcomposes.2,
    fun h => absurd (hnames.mpr h) (by decide)⟩

/-- **A class composed from another file is there by its local name**, which is not its name.

For two scoped stylesheets whose class maps have the local names for keys, let a class of the
first compose a name from a file. Then the value of the class has the name as it stands in the
stylesheet, whatever the file; and if the second stylesheet has a class of that name, its value
there begins with its scoped name, which is another one. -/
theorem compile_composes_from {c : Config} {draws draws' : Sass.Draws} {fs : FileSystem}
    {p q : Path} {s t : CompiledStylesheet} (hc : c.localsConvention = .asIs)
    (hs : (compile c draws fs p).value = .ok s) (hscope : s.scope = .scoped)
    (ht : (compile c draws' fs q).value = .ok t) (htscope : t.scope = .scoped) :
    ∃ scoping sheet scoping' sheet', scopedSheet? c draws fs s.path = some (scoping, sheet)
      ∧ scopedSheet? c draws' fs t.path = some (scoping', sheet')
      ∧ ∀ a x file, sheet.Composes a x (some file) →
        Text.lookup? a s.classNames = some (Text.join " " (scoping.scopedName a ::
            (scoping.references a (sheet.write true)).map Css.Reference.name))
        ∧ (∃ r ∈ scoping.references a (sheet.write true), r = .dependency x file ∧ r.name = x)
        ∧ ∀ vx, Text.lookup? x t.classNames = some vx →
          (∃ more, vx = Text.join " " (scoping'.scopedName x :: more))
            ∧ x ≠ scoping'.scopedName x := by
  obtain ⟨filename, sheet, hsheet, hlookup⟩ := lookup?_classNames hc hs hscope
  obtain ⟨filename', sheet', hsheet', hlookup'⟩ := lookup?_classNames hc ht htscope
  refine ⟨_, sheet, _, sheet', hsheet, hsheet', fun a x file hcomposes =>
    ⟨?_, ⟨_, Css.Sheet.reference_mem_of_composes hcomposes _, rfl, rfl⟩, fun vx hvx => ?_⟩⟩
  · rw [hlookup, Css.Sheet.exported_of_composes hcomposes]
    rfl
  · obtain rfl := eq_value_of_exported ((hlookup' x).symm.trans hvx)
    exact ⟨⟨_, rfl⟩, Css.Scoping.ne_scopedName _ _ _⟩

/-- **The law at two stylesheets**: the class is named as the other file has it, and not as the
CSS of the other file has it. -/
theorem compile_composes_from_file :
    ∃ s t, (compile unmarked Sass.noughts composed "/app/y.module.css".toList).value = .ok s
      ∧ (compile unmarked Sass.noughts composed "/app/x.module.css".toList).value = .ok t
      ∧ Text.lookup? "d".toList s.classNames = some "y-module__d b".toList
      ∧ Text.lookup? "b".toList t.classNames = some "x-module__b x-module__c".toList
      ∧ ∃ scoping sheet scoping' sheet', scopedSheet? unmarked Sass.noughts composed s.path
          = some (scoping, sheet)
        ∧ scopedSheet? unmarked Sass.noughts composed t.path = some (scoping', sheet')
        ∧ sheet.Composes "d".toList "b".toList (some "./x.module.css".toList)
        ∧ .dependency "b".toList "./x.module.css".toList
          ∈ scoping.references "d".toList (sheet.write true)
        ∧ "b".toList ≠ scoping'.scopedName "b".toList := by
  obtain ⟨s, hs, hpath, hscope, hm⟩ : ∃ s,
      (compile unmarked Sass.noughts composed "/app/y.module.css".toList).value = .ok s
        ∧ s.path = "/app/y.module.css".toList ∧ s.scope = .scoped
        ∧ s.classNames = [("d".toList, "y-module__d b".toList)] :=
    @exists_value_compile_of_classes _ _ _ _ (.ofNaming .plain "/app/y.module.css".toList)
      [("d".toList, [.composes ["b".toList] (some "./x.module.css".toList) false ⟨0, 13⟩])] _
      (by decide +kernel) (by decide) (by decide +kernel) (by decide +kernel)
  obtain ⟨t, ht, -, htscope, hm'⟩ := exists_value_compile_composed
  have hcomposes : (scopedSheet? unmarked Sass.noughts composed
      "/app/y.module.css".toList).all (fun read =>
      decide (read.2.Composes "d".toList "b".toList (some "./x.module.css".toList))) = true := by
    decide +kernel
  have hb : Text.lookup? "b".toList t.classNames = some "x-module__b x-module__c".toList := by
    rw [hm']
    decide
  obtain ⟨scoping, sheet, scoping', sheet', hsheet, hsheet', law⟩ :=
    compile_composes_from rfl hs hscope ht htscope
  rw [← hpath, hsheet, Option.all_some, decide_eq_true_iff] at hcomposes
  obtain ⟨-, ⟨r, hr, rfl, -⟩, hnames⟩ := law _ _ _ hcomposes
  refine ⟨s, t, hs, ht, ?_, hb, scoping, sheet, scoping', sheet', hsheet, hsheet', hcomposes, hr,
    (hnames _ hb).2⟩
  rw [hm]
  decide

end Stylesheet

end ModuleHooks
