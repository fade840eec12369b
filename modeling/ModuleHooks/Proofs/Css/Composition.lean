import ModuleHooks.Proofs.Css.Exports
/-!
# Classes that compose others

A class composes others where a style rule that has it for a selector says so. In what is
written of the rule the selectors come first and the compositions after them, so the class is
exported by the time the composition is met (`Sheet.exists_sublist_write`). Therefore each
name that the stylesheet says a class composes is among the references of the class
(`Sheet.reference_mem_of_composes`).

Where every rule is that of one class and has no rules inside it, the stylesheet is written
class by class (`Rule.writeAll_ofClass`).
-/

namespace ModuleHooks.Css

/-- A declaration composes a name, from a file if one is named. -/
def Declaration.Composes (x : Text) (source : Option Text) : Declaration → Prop
  | .composes names source' isGlobal _ => x ∈ names ∧ source' = source ∧ isGlobal = false
  | .property .. => False

instance (x : Text) (source : Option Text) : DecidablePred (Declaration.Composes x source)
  | .composes names source' isGlobal _ =>
    inferInstanceAs (Decidable (x ∈ names ∧ source' = source ∧ isGlobal = false))
  | .property .. => inferInstanceAs (Decidable False)

/-- The selectors and the declarations of a style rule. -/
def Rule.style? : Rule → Option (List Selector × Declarations)
  | .style selectors d _ => some (selectors, d)
  | .nest selectors d _ => some (selectors, d)
  | _ => none

/-- A rule makes a class compose a name: a style rule with the class for one of its selectors
declares it. -/
def Rule.Composes (a x : Text) (source : Option Text) (rule : Rule) : Prop :=
  ∃ style ∈ rule.style?, (∃ s ∈ style.1, Selector.onlyClass? s = some a)
    ∧ ∃ declaration ∈ style.2.normal ++ style.2.important, declaration.Composes x source

instance (a x : Text) (source : Option Text) : DecidablePred (Rule.Composes a x source) :=
  fun rule => inferInstanceAs (Decidable (∃ style ∈ rule.style?, _ ∧ _))

/-- **A class composes a name** of the stylesheet, or of a file if one is named. -/
def Sheet.Composes (sheet : Sheet) (a x : Text) (source : Option Text) : Prop :=
  ∃ rule ∈ sheet.rules, rule.Composes a x source

instance (sheet : Sheet) (a x : Text) (source : Option Text) :
    Decidable (sheet.Composes a x source) :=
  inferInstanceAs (Decidable (∃ rule ∈ sheet.rules, rule.Composes a x source))

/-! ## Selectors before compositions -/

theorem Selector.eq_of_onlyClass? {s : Selector} {a : Text} (h : onlyClass? s = some a) :
    s = [(none, [.class a])] := by
  unfold onlyClass? at h
  split at h
  · rw [Option.some_inj.mp h]
  · cases h

/-- A class that is a selector is written with its local name. -/
theorem Selector.local_mem_writeSelectors {a : Text} {s : Selector} {selectors : List Selector}
    (h : s ∈ selectors) (hs : onlyClass? s = some a) :
    Piece.local a ∈ writeSelectors true selectors := by
  have hself : Piece.local a ∈ writeChain true s := by
    rw [eq_of_onlyClass? hs]
    simp [writeChain, writeCompound, writeSimple]
  induction selectors with
  | nil => exact absurd h List.not_mem_nil
  | cons t selectors ih =>
    cases selectors with
    | nil =>
      rw [writeSelectors, ← List.mem_singleton.mp h]
      exact hself
    | cons u selectors =>
      rw [writeSelectors]
      · rcases List.mem_cons.mp h with rfl | h
        · exact List.mem_append_left _ hself
        · exact List.mem_append_right _ (List.mem_cons_of_mem _ (ih h))
      · exact List.cons_ne_nil _ _

namespace Rule

variable {a : Text} {s : Selector} {selectors : List Selector} {d : Declarations}
  {names : List Text} {source : Option Text} {isGlobal : Bool} {place : Place}

/-- The compositions of a style rule are written for each of its selectors. -/
theorem composition_mem_compositions {indent : Nat} (hindent : indent ≤ 2)
    {declarations : List Declaration} (hs : s ∈ selectors) (hclass : s.onlyClass? = some a)
    (hd : .composes names source isGlobal place ∈ declarations) :
    .composition a names source isGlobal ∈ compositions indent selectors declarations := by
  refine List.mem_flatMap.mpr ⟨_, hd, ?_⟩
  show _ ∈ compose indent selectors names source isGlobal place
  rw [compose, if_neg (Nat.not_lt.mpr hindent)]
  refine List.mem_map.mpr ⟨s, hs, ?_⟩
  rw [hclass]

/-- **A style rule is written with its selectors first** and its compositions after them. -/
theorem sublist_writeStyle (hs : s ∈ selectors) (hclass : s.onlyClass? = some a)
    (hd : .composes names source isGlobal place ∈ d.normal ++ d.important) (rules : Written) :
    List.Sublist [.local a, .composition a names source isGlobal]
      (writeStyle true 0 selectors d rules) := by
  have hcount : d.count ≠ 0 := by
    rw [Declarations.count, ← List.length_append]
    exact (List.length_pos_of_mem hd).ne'
  unfold writeStyle
  dsimp only
  rw [List.append_assoc, List.append_assoc, if_neg hcount]
  refine List.cons_sublist_iff.mpr
    ⟨_, _, rfl, Selector.local_mem_writeSelectors hs hclass, List.singleton_sublist.mpr ?_⟩
  refine List.mem_append_left _ (List.mem_cons_of_mem _ (List.mem_cons_of_mem _ ?_))
  exact List.mem_append_left _ (composition_mem_compositions (Nat.le_refl 2) hs hclass hd)

/-- A style rule is written as its selectors and declarations are. -/
theorem exists_writeStyle_sublist {rule : Rule} (h : rule.style? = some (selectors, d)) :
    ∃ rules, (writeStyle true 0 selectors d rules).Sublist (write true 0 rule) := by
  unfold style? at h
  split at h
  · cases h
    exact ⟨_, List.Sublist.refl _⟩
  · cases h
    exact ⟨_, List.sublist_cons_self _ _⟩
  · cases h

/-- A rule is written among the others. -/
theorem write_sublist_writeAll {rule : Rule} {rules : List Rule} (h : rule ∈ rules)
    (isScoped : Bool) (indent : Nat) :
    (write isScoped indent rule).Sublist (writeAll isScoped indent rules) := by
  induction rules with
  | nil => exact absurd h List.not_mem_nil
  | cons r rules ih =>
    cases rules with
    | nil => rw [writeAll, List.mem_singleton.mp h]
    | cons t rules =>
      rw [writeAll]
      rcases List.mem_cons.mp h with rfl | h
      · exact List.sublist_append_left _ _
      · exact (ih h).trans ((List.sublist_cons_self _ _).trans (List.sublist_append_right _ _))

end Rule

namespace Sheet

variable {sheet : Sheet} {a x : Text} {source : Option Text}

/-- **The composition of a class is written after the name of the class.** -/
theorem exists_sublist_write (h : sheet.Composes a x source) :
    ∃ names, x ∈ names
      ∧ List.Sublist [.local a, .composition a names source false] (sheet.write true) := by
  obtain ⟨rule, hrule, ⟨selectors, d⟩, hstyle, ⟨s, hs, hclass⟩, declaration, hd, hcomposes⟩ := h
  cases declaration with
  | property => cases hcomposes
  | composes names source' isGlobal place =>
    obtain ⟨hx, rfl, rfl⟩ := hcomposes
    obtain ⟨rules, hwrite⟩ := Rule.exists_writeStyle_sublist hstyle
    refine ⟨names, hx, (Rule.sublist_writeStyle hs hclass hd rules).trans (hwrite.trans ?_)⟩
    refine (Rule.write_sublist_writeAll hrule true 0).trans ?_
    exact (List.sublist_append_right _ _).trans (List.sublist_append_left _ _)

/-- **What a class composes is among its references.** -/
theorem reference_mem_of_composes (h : sheet.Composes a x source) (s : Scoping) :
    s.reference x source false ∈ s.references a (sheet.write true) := by
  obtain ⟨names, hx, hwrite⟩ := exists_sublist_write h
  refine Scoping.mem_references_of_sublist hwrite ?_
  rw [Scoping.mentions, if_pos rfl]
  exact List.mem_map_of_mem hx

/-- A class that composes something is exported. -/
theorem exported_of_composes (h : sheet.Composes a x source) (s : Scoping) :
    s.exported a (sheet.write true) = some
      { name := s.scopedName a, composes := s.references a (sheet.write true) } := by
  obtain ⟨names, -, hwrite⟩ := exists_sublist_write h
  refine (s.exported_eq_none_or a _).resolve_left (Scoping.exported_ne_none_of_mem ?_)
  exact hwrite.subset List.mem_cons_self

end Sheet

deriving instance DecidableEq for Declaration

namespace Rule

/-! ## Rules of one class -/

/-- The rule of a class with nothing but declarations. -/
def ofClass (x : Text × List Declaration) : Rule := .style [[(none, [.class x.1])]] ⟨x.2, []⟩ []

/-- The class of such a rule, and its declarations. -/
def class? : Rule → Option (Text × List Declaration)
  | .style [[(none, [.class a])]] ⟨ds, []⟩ [] => some (a, ds)
  | _ => none

theorem eq_ofClass_of_class? {rule : Rule} {x : Text × List Declaration}
    (h : class? rule = some x) : rule = ofClass x := by
  unfold class? at h
  split at h <;> cases h
  rfl

theorem eq_map_ofClass {rules : List Rule} {l : List (Text × List Declaration)}
    (h : rules.map class? = l.map some) : rules = l.map ofClass := by
  induction l generalizing rules with
  | nil => exact List.map_eq_nil_iff.mp h
  | cons x l ih =>
    obtain ⟨rule, rules, rfl, hrule, hrules⟩ := List.map_eq_cons_iff.mp h
    rw [eq_ofClass_of_class? hrule, ih hrules, List.map_cons]

/-- What is written of such a rule. -/
def writeClass (x : Text × List Declaration) : Written :=
  [.text ['.'], .local x.1] ++ .text " \x7b" ::
    (if x.2.length = 0 then []
      else .text (newline 2) :: writeDeclarations 2 [[(none, [.class x.1])]] ⟨x.2, []⟩) ++
    [.text ['\n', '\x7d']]

/-- What is written of such rules, one after the other. -/
def writeClasses : List (Text × List Declaration) → Written
  | [] => []
  | [x] => writeClass x
  | x :: y :: l => writeClass x ++ .text ['\n', '\n'] :: writeClasses (y :: l)

theorem write_ofClass (x : Text × List Declaration) : write true 0 (ofClass x) = writeClass x := by
  have hselector :
      Selector.writeList true [[(none, [.class x.1])]] = [.text ['.'], .local x.1] := by
    simp [Selector.writeList, Selector.writeSelectors, Selector.writeChain, Selector.writeCompound,
      Selector.writeSimple]
  rw [ofClass, write, writeAll, writeStyle, hselector, List.isEmpty_nil, if_pos rfl,
    List.append_nil]
  rfl

theorem writeAll_ofClass (l : List (Text × List Declaration)) :
    writeAll true 0 (l.map ofClass) = writeClasses l := by
  induction l with
  | nil => rfl
  | cons x l ih =>
    cases l with
    | nil => exact write_ofClass x
    | cons y l =>
      rw [writeClasses, ← ih, ← write_ofClass]
      rfl

end Rule

end ModuleHooks.Css
