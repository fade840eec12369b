import ModuleHooks.Proofs.Text.Pieces
import ModuleHooks.Specifier.Bare
/-!
# Package specifiers taken apart

A package specifier is the name of a package, or that name, a slash and more
(`eq_of_parse`); and each such text is read as just that name with what follows
it for the path inside the package (`parse_append_cons`). A specifier can
therefore be edited behind the name of its package without touching the name.
An edit *of the name* gives the name of another package
(`IsPackageName.append`).

Taken together this is the grammar of package specifiers (`parse_grammar`): what is read
is told by the text alone, and spells the text again but for a slash at its end.
-/

namespace ModuleHooks.PackageSpecifier

/-- **The name of a package**, with a scope or without. -/
inductive IsPackageName : Text → Prop where
  /-- One segment that does not begin with an at sign. -/
  | plain {name : Text} (noSlash : '/' ∉ name) (ne_nil : name ≠ [])
      (noScope : name.head? ≠ some '@') : IsPackageName name
  /-- An at sign with a scope, and one segment. -/
  | withScope {scope base : Text} (noSlash : '/' ∉ scope) (ne_nil : scope ≠ [])
      (noSlash' : '/' ∉ base) (isSegment : isNameSegment base = true) :
      IsPackageName ('@' :: scope ++ '/' :: base)

theorem isNameSegment_iff {segment : Text} :
    isNameSegment segment = true ↔ segment ≠ [] ∧ segment ≠ ['@'] := by
  rw [isNameSegment, Bool.and_eq_true, bne_iff_ne, bne_iff_ne]

/-- A name does not end in a slash. -/
theorem IsPackageName.exists_concat {name : Text} (h : IsPackageName name) :
    ∃ front c, name = front ++ [c] ∧ c ≠ '/' := by
  cases h with
  | plain hslash hne =>
    obtain ⟨front, c, rfl⟩ := (List.eq_nil_or_concat' name).resolve_left hne
    exact ⟨front, c, rfl, fun heq => hslash (heq ▸ List.mem_append_right front List.mem_cons_self)⟩
  | @withScope scope base hslash hne hslash' hbase =>
    obtain ⟨front, c, rfl⟩ :=
      (List.eq_nil_or_concat' base).resolve_left (isNameSegment_iff.mp hbase).1
    refine ⟨'@' :: scope ++ '/' :: front, c, by simp, fun heq => hslash' ?_⟩
    exact heq ▸ List.mem_append_right front List.mem_cons_self

/-- A name with more characters, none of them a slash, is another name. -/
theorem IsPackageName.append {name : Text} (h : IsPackageName name) {more : Text}
    (hmore : '/' ∉ more) : IsPackageName (name ++ more) := by
  have hnot : ∀ {t : Text}, '/' ∉ t → '/' ∉ t ++ more := fun ht hmem =>
    (List.mem_append.mp hmem).elim ht hmore
  cases h with
  | plain hslash hne hscope =>
    obtain ⟨c, r, rfl⟩ := List.exists_cons_of_ne_nil hne
    exact .plain (hnot hslash) (List.cons_ne_nil _ _) hscope
  | @withScope scope base hslash hne hslash' hbase =>
    rw [List.append_assoc, List.cons_append]
    obtain ⟨hbase, hat⟩ := isNameSegment_iff.mp hbase
    refine .withScope hslash hne (hnot hslash') (isNameSegment_iff.mpr ⟨?_, fun heq => hat ?_⟩)
    · exact List.append_ne_nil_of_left_ne_nil hbase more
    · obtain ⟨c, r, rfl⟩ := List.exists_cons_of_ne_nil hbase
      obtain ⟨rfl, hr⟩ := List.cons_eq_cons.mp heq
      rw [(List.append_eq_nil_iff.mp hr).1]

/-! ## Reading -/

/-- The path inside the package that a rest of the specifier spells. -/
def subpath? (rest : Text) : Option Text := if rest = [] then none else some rest

/-- A name by itself is read as the name. -/
theorem parse_of_isPackageName {name : Text} (h : IsPackageName name) :
    parse name = some ⟨name, none⟩ := by
  unfold parse
  cases h with
  | plain hslash hne hscope =>
    obtain ⟨c, r, rfl⟩ := List.exists_cons_of_ne_nil hne
    have hc : c ≠ '@' := fun heq => hscope (congrArg some heq)
    rw [Text.splitOn_of_notMem hslash]
    simp [isNameSegment, subpathOf, hc]
  | @withScope scope base hslash hne hslash' hbase =>
    rw [Text.splitOn_append_cons, Text.splitOn_of_notMem (by simpa using hslash),
      Text.splitOn_of_notMem hslash']
    simp [hbase, isNameSegment_iff, hne, subpathOf]

/-- **A name, a slash and more** are read as the name with the rest inside the
package. -/
theorem parse_append_cons {name : Text} (h : IsPackageName name) (rest : Text) :
    parse (name ++ '/' :: rest) = some ⟨name, subpath? rest⟩ := by
  have hrest : subpathOf (Text.splitOn '/' rest) = subpath? rest := by
    have hjoin : Text.join "/" (Text.splitOn '/' rest) = rest := Text.join_splitOn '/' rest
    unfold subpathOf
    split
    · next hnil => exact absurd hnil (Text.splitOn_ne_nil '/' rest)
    · rw [hjoin]
      rfl
  unfold parse
  rw [Text.splitOn_append_cons]
  cases h with
  | plain hslash hne hscope =>
    obtain ⟨c, r, rfl⟩ := List.exists_cons_of_ne_nil hne
    have hc : c ≠ '@' := fun heq => hscope (congrArg some heq)
    rw [Text.splitOn_of_notMem hslash]
    simp [isNameSegment, hrest, hc]
  | @withScope scope base hslash hne hslash' hbase =>
    rw [Text.splitOn_append_cons, Text.splitOn_of_notMem (by simpa using hslash),
      Text.splitOn_of_notMem hslash']
    simp [hbase, isNameSegment_iff, hne, hrest]

/-- Pieces put together are the first one, or the first one, a slash and the
others put together. -/
theorem join_cons_cases (name : Text) (rest : List Text) :
    rest = [] ∧ Text.join ['/'] (name :: rest) = name
      ∨ rest ≠ [] ∧ Text.join ['/'] (name :: rest) = name ++ '/' :: Text.join ['/'] rest := by
  by_cases hrest : rest = []
  · subst hrest
    exact Or.inl ⟨rfl, Text.join_singleton _ _⟩
  · refine Or.inr ⟨hrest, ?_⟩
    rw [Text.join_cons _ hrest]
    simp

/-- The name of a package specifier is read off its first pieces, and the path
inside the package off the others. -/
theorem exists_rest_of_parse {s : Text} {package : PackageSpecifier}
    (h : parse s = some package) :
    ∃ rest, IsPackageName package.name ∧ package.subpath = subpathOf rest
      ∧ (rest = [] ∧ s = package.name
        ∨ rest ≠ [] ∧ s = package.name ++ '/' :: Text.join ['/'] rest) := by
  have hs : Text.join ['/'] (Text.splitOn '/' s) = s := Text.join_splitOn '/' s
  have hpieces : ∀ p ∈ Text.splitOn '/' s, '/' ∉ p := fun p hp => Text.notMem_of_mem_splitOn hp
  -- The specifier is its pieces put together, so from here on only they are spoken of.
  unfold parse at h
  rw [← hs]
  revert hpieces h
  generalize Text.splitOn '/' s = pieces
  intro h hpieces
  split at h
  · next scope base rest =>
    split_ifs at h with hsegments
    rw [Bool.and_eq_true, isNameSegment_iff] at hsegments
    cases h
    have hscope : '/' ∉ scope := fun hmem =>
      hpieces _ List.mem_cons_self (List.mem_cons_of_mem '@' hmem)
    have hbase : '/' ∉ base := hpieces _ (List.mem_cons_of_mem _ List.mem_cons_self)
    have hscoped : scope ≠ [] := fun hnil => hsegments.1.2 (by rw [hnil])
    refine ⟨rest, .withScope hscope hscoped hbase hsegments.2, rfl, ?_⟩
    rw [Text.join_cons _ (List.cons_ne_nil _ _)]
    refine (join_cons_cases base rest).imp (fun ⟨hrest, hjoin⟩ => ⟨hrest, ?_⟩)
      (fun ⟨hrest, hjoin⟩ => ⟨hrest, ?_⟩)
    · rw [hjoin]
      simp
    · rw [hjoin]
      simp
  · cases h
  · next name rest hscoped halone =>
    split_ifs at h with hsegment
    cases h
    obtain ⟨hne, -⟩ := isNameSegment_iff.mp hsegment
    have hat : name.head? ≠ some '@' := by
      intro hat
      obtain ⟨scope, rfl⟩ := List.head?_eq_some_iff.mp hat
      cases rest with
      | nil => exact halone scope rfl rfl
      | cons base rest => exact hscoped scope base rest rfl rfl
    exact ⟨rest, .plain (hpieces _ List.mem_cons_self) hne hat, rfl, join_cons_cases name rest⟩
  · cases h

/-- **Whatever is read as a package specifier** is a name, or a name, a slash
and more. -/
theorem eq_of_parse {s : Text} {package : PackageSpecifier} (h : parse s = some package) :
    IsPackageName package.name
      ∧ (s = package.name ∧ package.subpath = none
        ∨ ∃ rest, s = package.name ++ '/' :: rest ∧ package.subpath = subpath? rest) := by
  obtain ⟨rest, hname, hsub, ⟨rfl, hs⟩ | ⟨hrest, hs⟩⟩ := exists_rest_of_parse h
  · exact ⟨hname, Or.inl ⟨hs, hsub⟩⟩
  · refine ⟨hname, Or.inr ⟨Text.join ['/'] rest, hs, ?_⟩⟩
    rw [hsub]
    unfold subpathOf
    split
    · next hnil => exact absurd rfl hrest
    · rfl

/-- A package specifier has no path inside the package, or it spells one. -/
theorem subpath_cases_of_parse {s : Text} {package : PackageSpecifier}
    (h : parse s = some package) :
    package.subpath = none ∧ (s = package.name ∨ s = package.name ++ ['/'])
      ∨ ∃ sub, sub ≠ [] ∧ package.subpath = some sub ∧ s = package.name ++ '/' :: sub := by
  obtain ⟨-, ⟨hs, hsub⟩ | ⟨rest, hs, hsub⟩⟩ := eq_of_parse h
  · exact Or.inl ⟨hsub, Or.inl hs⟩
  · by_cases hrest : rest = []
    · subst hrest
      exact Or.inl ⟨hsub, Or.inr hs⟩
    · exact Or.inr ⟨rest, hrest, hsub.trans (if_neg hrest), hs⟩

/-! ## The grammar -/

/-- A segment with something in it. -/
def IsSegment (t : Text) : Prop := t ≠ [] ∧ '/' ∉ t

/-- **A specifier spells a package.** The name is one segment that does not begin with an at sign,
or an at sign with a scope, a slash and a segment that is more than an at sign. Behind the name
there is nothing or a slash, and then there is no path inside the package; or there is a slash and
more, which is the path as it stands. -/
structure Spells (s : Text) (package : PackageSpecifier) : Prop where
  /-- The name of the package. -/
  name : IsSegment package.name ∧ package.name.head? ≠ some '@'
    ∨ ∃ scope base, package.name = '@' :: scope ++ '/' :: base
      ∧ IsSegment scope ∧ IsSegment base ∧ base ≠ ['@']
  /-- What is behind the name. -/
  rest : package.subpath = none ∧ (s = package.name ∨ s = package.name ++ ['/'])
    ∨ ∃ path, path ≠ [] ∧ package.subpath = some path ∧ s = package.name ++ '/' :: path

/-- The name of a package, segment by segment. -/
theorem isPackageName_iff {name : Text} :
    IsPackageName name ↔ IsSegment name ∧ name.head? ≠ some '@'
      ∨ ∃ scope base, name = '@' :: scope ++ '/' :: base
        ∧ IsSegment scope ∧ IsSegment base ∧ base ≠ ['@'] := by
  constructor
  · intro h
    cases h with
    | plain noSlash ne_nil noScope => exact Or.inl ⟨⟨ne_nil, noSlash⟩, noScope⟩
    | @withScope scope base noSlash ne_nil noSlash' isSegment =>
      obtain ⟨ne_nil', ne_at⟩ := isNameSegment_iff.mp isSegment
      exact Or.inr ⟨scope, base, rfl, ⟨ne_nil, noSlash⟩, ⟨ne_nil', noSlash'⟩, ne_at⟩
  · rintro (⟨hname, hscope⟩ | ⟨scope, base, rfl, hscope, hbase, hat⟩)
    · exact .plain hname.2 hname.1 hscope
    · exact .withScope hscope.2 hscope.1 hbase.2 (isNameSegment_iff.mpr ⟨hbase.1, hat⟩)

/-- **What is read is what is spelled.** -/
theorem parse_eq_some_iff {s : Text} {package : PackageSpecifier} :
    parse s = some package ↔ Spells s package := by
  constructor
  · intro h
    exact ⟨isPackageName_iff.mp (eq_of_parse h).1, subpath_cases_of_parse h⟩
  · rintro ⟨hname, hrest⟩
    have hname : IsPackageName package.name := isPackageName_iff.mpr hname
    obtain ⟨name, subpath⟩ := package
    rcases hrest with ⟨rfl, rfl | rfl⟩ | ⟨path, hne, rfl, rfl⟩
    · exact parse_of_isPackageName hname
    · exact parse_append_cons hname []
    · rw [parse_append_cons hname path, subpath?, if_neg hne]

/-- The text of a package specifier: the name and, behind a slash, the path inside the package. -/
def written (package : PackageSpecifier) : Text :=
  match package.subpath with
  | none => package.name
  | some path => package.name ++ '/' :: path

/-- A specifier spells its package as it is written, or has one more slash behind a name. -/
theorem Spells.eq_written {s : Text} {package : PackageSpecifier} (h : Spells s package) :
    s = package.written ∨ package.subpath = none ∧ s = package.written ++ ['/'] := by
  rcases h.rest with ⟨hsub, hs⟩ | ⟨path, -, hsub, hs⟩
  · rw [written, hsub]
    exact hs.imp_right fun hs => ⟨rfl, hs⟩
  · rw [written, hsub]
    exact Or.inl hs

/-- **The grammar of package specifiers.** A specifier is read as the package that it spells, and
not at all if it spells none; it spells at most one, and that one spells the specifier again but
for a slash at its end. -/
theorem parse_grammar (s : Text) :
    (∀ package, parse s = some package ↔ Spells s package)
      ∧ (parse s = none ↔ ¬∃ package, Spells s package)
      ∧ (∀ package package', Spells s package → Spells s package' → package = package')
      ∧ ∀ package, Spells s package →
        parse package.written = some package
          ∧ (s = package.written ∨ package.subpath = none ∧ s = package.written ++ ['/']) := by
  refine ⟨fun _ => parse_eq_some_iff, ?_, ?_, ?_⟩
  · rw [← Option.not_isSome_iff_eq_none, Option.isSome_iff_exists]
    simp only [parse_eq_some_iff]
  · intro package package' h h'
    exact Option.some.inj ((parse_eq_some_iff.mpr h).symm.trans (parse_eq_some_iff.mpr h'))
  · intro package h
    refine ⟨parse_eq_some_iff.mpr ⟨h.name, ?_⟩, h.eq_written⟩
    rcases h.rest with ⟨hsub, -⟩ | ⟨path, hne, hsub, -⟩
    · exact Or.inl ⟨hsub, Or.inl (by rw [written, hsub])⟩
    · exact Or.inr ⟨path, hne, hsub, by rw [written, hsub]⟩

/-- **The grammar at a scoped package with a slash too many**: the slash is left out, and that is
all there is to read. -/
theorem parse_grammar_scoped :
    let package : PackageSpecifier := ⟨"@types/node".toList, none⟩
    Spells "@types/node/".toList package ∧ parse "@types/node/".toList = some package
      ∧ parse package.written = some package
      ∧ ∀ package', Spells "@types/node/".toList package' → package' = package := by
  intro package
  obtain ⟨hread, -, hunique, hwritten⟩ := parse_grammar "@types/node/".toList
  have hparse : parse "@types/node/".toList = some package := by decide
  have hspells : Spells "@types/node/".toList package := (hread package).mp hparse
  exact ⟨hspells, hparse, (hwritten package hspells).1, fun _ h => hunique _ _ h hspells⟩

end ModuleHooks.PackageSpecifier
