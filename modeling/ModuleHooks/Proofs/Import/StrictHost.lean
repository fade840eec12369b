import ModuleHooks.Import.StrictHost
import ModuleHooks.Proofs.FileSystem.Lookup
import ModuleHooks.Proofs.Import.Conversation
import ModuleHooks.Proofs.Specifier.Package
import ModuleHooks.Proofs.Url.FilePath
import ModuleHooks.Proofs.Url.Reference
/-!
# The answers of the strict host

The strict host answers for a URL by what stands at its path: a file is the
result, a directory and nothing at all are the two failures that carry the
URL. Since a look-up from the root never ends at a link, these are all the
answers there are.

The strict host keeps no state, so in front of it the conversation of the hook
is a matter of its answers alone: what counts is its answer to the last
question (`value_resolve_lastQuestion`).
-/

namespace ModuleHooks.StrictHost

variable {fs : FileSystem} {specifier : Text} {url : Url} {p : Path}

theorem resolveUrl_of_isFile (h : url.toFilePath? = some p) (hfile : fs.isFile p = true) :
    resolveUrl fs specifier url = .ok { url, format := some (detectFormat fs p) } := by
  obtain ⟨content, hnode⟩ := FileSystem.isFile_iff.mp hfile
  rw [resolveUrl, h]
  simp only [hnode]
  exact if_neg (fun heq => Node.noConfusion heq)

theorem resolveUrl_of_isDirectory (h : url.toFilePath? = some p)
    (hdirectory : fs.isDirectory p = true) :
    resolveUrl fs specifier url = .error (.directoryImport specifier url) := by
  rw [resolveUrl, h]
  simp only [FileSystem.isDirectory_iff.mp hdirectory, if_true]

theorem resolveUrl_of_none (h : url.toFilePath? = some p) (hnone : fs.node? p = none) :
    resolveUrl fs specifier url = .error (.moduleNotFound specifier (some url)) := by
  rw [resolveUrl, h]
  simp only [hnone]

/-- A URL that is answered with is the one that was asked for, and something is there that
is no directory. -/
theorem eq_of_resolveUrl {m : ResolvedModule} (h : resolveUrl fs specifier url = .ok m) :
    ∃ path node, url.toFilePath? = some path ∧ fs.node? path = some node ∧ node ≠ .directory
      ∧ m = { url, format := some (detectFormat fs path) } := by
  unfold resolveUrl at h
  split at h
  · cases h
  · next path hpath =>
    split at h
    · cases h
    · next node hnode =>
      split_ifs at h with hdirectory
      cases h
      exact ⟨path, node, hpath, hnode, hdirectory, rfl⟩

/-! ## Relative specifiers -/

/-- What begins with a character that no name of a module begins with is no module of the host. -/
theorem lookup_of_cons {c : Char} (hmodules : ∀ m ∈ Builtin.modules, m.head? ≠ some c)
    (hn : c ≠ 'n') (r : Text) : Builtin.lookup (c :: r) = .unrelated := by
  have hmem : Builtin.modules.contains (c :: r) = false :=
    Bool.eq_false_iff.mpr fun h => hmodules _ (List.contains_iff_mem.mp h) rfl
  have hscheme : Text.stripStart? "node:" (c :: r) = none := by
    show (if 'n' = c then _ else none) = none
    rw [if_neg (Ne.symm hn)]
  rw [Builtin.lookup, hscheme, hmem]
  rfl

/-- No module of the host has a name that begins with a dot. -/
theorem lookup_of_dot (r : Text) : Builtin.lookup ('.' :: r) = .unrelated :=
  lookup_of_cons (by decide) (by decide) r

/-- **A relative specifier is read against the URL of its importer.** -/
theorem resolve_of_join {base : Url} {lead rest : Text} {context : ResolveContext}
    (hlead : lead = ['.'] ∨ lead = ['.', '.']) (hparent : context.parentUrl = some base)
    (hurl : base.join (lead ++ '/' :: rest) = .ok url) :
    resolve fs (lead ++ '/' :: rest) context = resolveUrl fs (lead ++ '/' :: rest) url := by
  have hlookup : Builtin.lookup (lead ++ '/' :: rest) = .unrelated := by
    rcases hlead with rfl | rfl
    · exact lookup_of_dot _
    · exact lookup_of_dot _
  have hrelative : isRelative (lead ++ '/' :: rest) = true := by
    rcases hlead with rfl | rfl
    · simp [isRelative, Text.startsWith]
    · simp [isRelative, Text.startsWith]
  unfold resolve
  rw [hlookup]
  simp only [hrelative, if_true]
  unfold resolveRelative
  rw [hparent]
  simp only [hurl]

/-! ## Bare specifiers -/

/-- **A specifier behind the name of a package**: the name itself, or the name,
a slash and more. -/
def IsUnder (name s : Text) : Prop := s = name ∨ ∃ rest, s = name ++ '/' :: rest

/-- A name of a package that is read as nothing else: it is no name of a
directory and holds no colon that could end a scheme. -/
structure IsBareName (name : Text) : Prop where
  /-- It is the name of a package. -/
  isPackageName : PackageSpecifier.IsPackageName name
  /-- There is no colon in it. -/
  noColon : ':' ∉ name
  /-- It is not the directory itself. -/
  ne_here : name ≠ ['.']
  /-- It is not the directory above. -/
  ne_above : name ≠ ['.', '.']

/-- A name with the extension of a script is another name. -/
theorem IsBareName.append_js {name : Text} (h : IsBareName name) :
    IsBareName (name ++ ".js".toList) where
  isPackageName := h.isPackageName.append (by decide)
  noColon hmem := (List.mem_append.mp hmem).elim h.noColon (by decide)
  ne_here heq := by
    have hlength := congrArg List.length heq
    simp at hlength
  ne_above heq := by
    have hlength := congrArg List.length heq
    simp at hlength

section Bare

variable {name s : Text} (hname : IsBareName name) (hs : IsUnder name s)

include hname hs

/-- The first segment of a bare specifier is its name or a scope. -/
theorem head?_splitOn_of_isUnder :
    (Text.splitOn '/' s).head? = some name
      ∨ ∃ scope, (Text.splitOn '/' s).head? = some ('@' :: scope) := by
  obtain ⟨hpackage, -, -, -⟩ := hname
  cases hpackage with
  | plain hslash hne hscope =>
    refine Or.inl ?_
    rcases hs with rfl | ⟨rest, rfl⟩
    · rw [Text.splitOn_of_notMem hslash]
      rfl
    · rw [Text.splitOn_append_cons, Text.splitOn_of_notMem hslash]
      rfl
  | @withScope scope base hslash hne hslash' hbase =>
    have hscope : '/' ∉ '@' :: scope := by simpa using hslash
    refine Or.inr ⟨scope, ?_⟩
    rcases hs with rfl | ⟨rest, rfl⟩
    · rw [Text.splitOn_append_cons, Text.splitOn_of_notMem hscope]
      rfl
    · rw [Text.splitOn_append_cons, Text.splitOn_append_cons, Text.splitOn_of_notMem hscope]
      rfl

theorem isRelative_of_isUnder : isRelative s = false := by
  obtain ⟨hpackage, -, hhere, habove⟩ := id hname
  have hempty : name ≠ [] := by
    obtain ⟨front, c, rfl, -⟩ := hpackage.exists_concat
    exact List.append_ne_nil_of_right_ne_nil _ (List.cons_ne_nil _ _)
  -- A relative specifier begins with one of three segments, and none of them is a name.
  have hfirst : ∀ x : Text, '/' ∉ x → x ≠ name → (∀ scope, x ≠ '@' :: scope) →
      Text.startsWith s (x ++ ['/']) = false := by
    intro x hslash hne hscope
    refine Bool.eq_false_iff.mpr (fun h => ?_)
    obtain ⟨r, rfl⟩ := List.isPrefixOf_iff_prefix.mp h
    have hhead : (Text.splitOn '/' (x ++ ['/'] ++ r)).head? = some x := by
      rw [List.append_assoc, List.singleton_append, Text.splitOn_append_cons,
        Text.splitOn_of_notMem hslash]
      rfl
    rcases head?_splitOn_of_isUnder hname hs with h | ⟨scope, h⟩
    · exact hne (Option.some_inj.mp (hhead.symm.trans h))
    · exact hscope scope (Option.some_inj.mp (hhead.symm.trans h))
  have hdot := hfirst ['.'] (by decide) hhere.symm (fun scope => by simp)
  have hdots := hfirst ['.', '.'] (by decide) habove.symm (fun scope => by simp)
  have hroot := hfirst [] (by decide) hempty.symm (fun scope => by simp)
  show ["./".toList, "../".toList, "/".toList].any (Text.startsWith s) = false
  simp only [List.any_cons, List.any_nil]
  exact Bool.or_eq_false_iff.mpr ⟨hdot, Bool.or_eq_false_iff.mpr ⟨hdots,
    Bool.or_eq_false_iff.mpr ⟨hroot, rfl⟩⟩⟩

theorem colonsBehindSlash_of_isUnder : Url.ColonsBehindSlash s := by
  intro before after heq
  rcases hs with rfl | ⟨rest, rfl⟩
  · exact absurd (heq ▸ List.mem_append_right before List.mem_cons_self) hname.noColon
  · rcases List.append_eq_append_iff.mp heq with ⟨more, rfl, hmore⟩ | ⟨more, rfl, hmore⟩
    · cases more with
      | nil => simp at hmore
      | cons c more =>
        obtain ⟨rfl, -⟩ := List.cons_eq_cons.mp hmore
        exact List.mem_append_right name List.mem_cons_self
    · cases more with
      | nil => simp at hmore
      | cons c more =>
        obtain ⟨rfl, -⟩ := List.cons_eq_cons.mp hmore
        exact absurd (List.mem_append_right before List.mem_cons_self) hname.noColon

/-- **A bare specifier that is no module of the host is looked up as a
package.** -/
theorem resolve_of_isUnder (hlookup : Builtin.lookup s = .unrelated) (context : ResolveContext) :
    resolve fs s context = resolvePackage fs s context.parentUrl := by
  unfold resolve
  rw [hlookup]
  simp only [isRelative_of_isUnder hname hs, Bool.false_eq_true, if_false,
    Url.parse_of_colonsBehindSlash (colonsBehindSlash_of_isUnder hname hs)]

/-- No module of the host has a name that ends in `.js`. -/
theorem lookup_of_isUnder_append (front : Text) (hjs : s = front ++ ".js".toList) :
    Builtin.lookup s = .unrelated := by
  have hmodules : ∀ m ∈ Builtin.modules, ¬".js".toList <:+ m := by decide
  have hmem : Builtin.modules.contains s = false :=
    Bool.eq_false_iff.mpr fun h => hmodules _ (List.contains_iff_mem.mp h) ⟨front, hjs.symm⟩
  have hscheme : Text.stripStart? "node:" s = none := by
    rw [Option.eq_none_iff_forall_ne_some]
    intro rest hrest
    have hnode : s = "node:".toList ++ rest := Text.eq_of_stripStart? hrest
    exact absurd (colonsBehindSlash_of_isUnder hname hs "node".toList rest hnode) (by decide)
  rw [Builtin.lookup, hscheme, hmem]
  rfl

end Bare

/-! ## The directory of a package -/

/-- **The nearest directory that holds a package.** -/
def nearestPackage (fs : FileSystem) (parent : Option Url) (name : Text) : Option Path :=
  ((ancestors (searchStart fs parent)).map (packageDirectory name)).find? fs.isDirectory

/-- What a package specifier leads to, below the directory of the package. -/
def packageTarget (fs : FileSystem) (dir : Path) (subpath : Option Text) : Path :=
  match subpath with
  | some sub => Path.join dir sub
  | none => packageEntry fs dir

theorem isAbsolute_searchStart (fs : FileSystem) (parent : Option Url) :
    Path.isAbsolute (searchStart fs parent) = true := by
  unfold searchStart
  cases hparent : (parent.bind Url.toFilePath?).bind Path.parent? with
  | none => rfl
  | some dir =>
    obtain ⟨file, hfile, hdir⟩ := Option.bind_eq_some_iff.mp hparent
    obtain ⟨url, -, hurl⟩ := Option.bind_eq_some_iff.mp hfile
    exact Path.isAbsolute_of_parent? (Url.isAbsolute_of_toFilePath? hurl) hdir

theorem isAbsolute_of_mem_ancestors {p dir : Path} (hp : Path.isAbsolute p = true)
    (h : dir ∈ ancestors p) : Path.isAbsolute dir = true := by
  have hfrom : ∀ n p, Path.isAbsolute p = true → ∀ dir ∈ ancestorsFrom n p,
      Path.isAbsolute dir = true := by
    intro n
    induction n with
    | zero => exact fun p hp => List.forall_mem_singleton.mpr hp
    | succ n ih =>
      intro p hp
      rw [ancestorsFrom]
      cases habove : Path.parent? p with
      | none => exact List.forall_mem_singleton.mpr hp
      | some above =>
        exact List.forall_mem_cons.mpr ⟨hp, ih above (Path.isAbsolute_of_parent? hp habove)⟩
  exact hfrom p.length p hp dir h

/-- The directory of a package stands below an absolute one. -/
theorem exists_of_nearestPackage {parent : Option Url} {name : Text} {dir : Path}
    (h : nearestPackage fs parent name = some dir) :
    ∃ above, Path.isAbsolute above = true ∧ dir = packageDirectory name above := by
  obtain ⟨above, habove, rfl⟩ := List.mem_map.mp (List.mem_of_find?_eq_some h)
  exact ⟨above, isAbsolute_of_mem_ancestors (isAbsolute_searchStart fs parent) habove, rfl⟩

theorem isAbsolute_of_nearestPackage {parent : Option Url} {name : Text} {dir : Path}
    (h : nearestPackage fs parent name = some dir) : Path.isAbsolute dir = true := by
  obtain ⟨above, habove, rfl⟩ := exists_of_nearestPackage h
  exact Path.isAbsolute_join (Path.isAbsolute_join habove _) _

theorem isAbsolute_packageTarget {dir : Path} (h : Path.isAbsolute dir = true)
    (subpath : Option Text) : Path.isAbsolute (packageTarget fs dir subpath) = true := by
  unfold packageTarget packageEntry
  cases subpath with
  | some sub => exact Path.isAbsolute_join h sub
  | none =>
    dsimp only
    split <;> exact Path.isAbsolute_join h _

/-- **A package specifier leads to its target** in the nearest package. -/
theorem resolvePackage_of_nearestPackage {parent : Option Url} {package : PackageSpecifier}
    {dir : Path} (hparse : PackageSpecifier.parse specifier = some package)
    (hnear : nearestPackage fs parent package.name = some dir) :
    ∃ url, Url.ofFilePath? (packageTarget fs dir package.subpath) = some url
      ∧ url.toFilePath? = some (Url.settle (packageTarget fs dir package.subpath))
      ∧ resolvePackage fs specifier parent = resolveUrl fs specifier url := by
  have htarget : Path.isAbsolute (packageTarget fs dir package.subpath) = true :=
    isAbsolute_packageTarget (isAbsolute_of_nearestPackage hnear) _
  have hurl := Url.ofFilePath?_of_isAbsolute htarget
  refine ⟨_, hurl, Url.toFilePath?_ofFilePath? hurl, ?_⟩
  unfold resolvePackage
  rw [hparse]
  unfold nearestPackage at hnear
  unfold packageTarget at hurl
  simp only [hnear]
  cases hsub : package.subpath with
  | none =>
    rw [hsub] at hurl
    simp only [hurl]
    rfl
  | some sub =>
    rw [hsub] at hurl
    simp only [hurl]
    rfl

/-- Without the package there is no answer and no URL. -/
theorem resolvePackage_of_nearestPackage_none {parent : Option Url} {package : PackageSpecifier}
    (hparse : PackageSpecifier.parse specifier = some package)
    (hnear : nearestPackage fs parent package.name = none) :
    resolvePackage fs specifier parent = .error (.moduleNotFound specifier none) := by
  unfold resolvePackage
  rw [hparse]
  unfold nearestPackage at hnear
  simp only [hnear]

/-- **A package that is answered with** is the nearest of its name, and its target is found. -/
theorem exists_nearestPackage_of_resolvePackage {parent : Option Url} {m : ResolvedModule}
    (h : resolvePackage fs specifier parent = .ok m) :
    ∃ package dir url, PackageSpecifier.parse specifier = some package
      ∧ nearestPackage fs parent package.name = some dir
      ∧ Url.ofFilePath? (packageTarget fs dir package.subpath) = some url
      ∧ url.toFilePath? = some (Url.settle (packageTarget fs dir package.subpath))
      ∧ resolveUrl fs specifier url = .ok m := by
  cases hparse : PackageSpecifier.parse specifier with
  | none =>
    unfold resolvePackage at h
    rw [hparse] at h
    cases h
  | some package =>
    cases hnear : nearestPackage fs parent package.name with
    | none =>
      rw [resolvePackage_of_nearestPackage_none hparse hnear] at h
      cases h
    | some dir =>
      obtain ⟨url, hurl, hpath, hanswer⟩ := resolvePackage_of_nearestPackage hparse hnear
      exact ⟨package, dir, url, rfl, hnear, hurl, hpath, hanswer ▸ h⟩

end ModuleHooks.StrictHost

namespace ModuleHooks.Import

/-! ## The hook in front of the strict host -/

variable {fs : FileSystem} {specifier : Text} {context : ResolveContext}

/-- **The last question that is put to the strict host**: the second one if
there is one, else the specifier itself. -/
def lastQuestion (fs : FileSystem) (specifier : Text) (context : ResolveContext) : Text :=
  Option.getD (again? fs specifier (StrictHost.resolve fs specifier context)) specifier

/-- **The hook answers as the strict host does to the last question.** -/
theorem value_resolve_lastQuestion (h : syntheticFormat? (Specifier.classify specifier) = none) :
    (resolve fs (StrictHost.resolver fs) () specifier context).value.2
      = (StrictHost.resolve fs (lastQuestion fs specifier context) context).mapError .resolve := by
  have hanswer : ((StrictHost.resolver fs).resolve () specifier context).2
      = StrictHost.resolve fs specifier context := rfl
  unfold lastQuestion
  cases hagain : again? fs specifier (StrictHost.resolve fs specifier context) with
  | none =>
    rw [value_resolve_of_again_none (StrictHost.resolver fs) () h (hanswer ▸ hagain), hanswer]
    rfl
  | some again =>
    rw [value_resolve_of_again_some (StrictHost.resolver fs) () h (hanswer ▸ hagain)]
    rfl

/-- **What is answered is an answer to the last question.** -/
theorem resolve_lastQuestion_of_ok (h : syntheticFormat? (Specifier.classify specifier) = none)
    {m : ResolvedModule}
    (hm : (resolve fs (StrictHost.resolver fs) () specifier context).value.2 = .ok m) :
    StrictHost.resolve fs (lastQuestion fs specifier context) context = .ok m := by
  rw [value_resolve_lastQuestion h] at hm
  cases hlast : StrictHost.resolve fs (lastQuestion fs specifier context) context with
  | error why =>
    rw [hlast] at hm
    cases hm
  | ok m' =>
    rw [hlast] at hm
    cases hm
    rfl

/-- A result of the strict host is passed on. -/
theorem resolve_of_ok (h : syntheticFormat? (Specifier.classify specifier) = none)
    {m : ResolvedModule} (hfirst : StrictHost.resolve fs specifier context = .ok m) :
    (resolve fs (StrictHost.resolver fs) () specifier context).value.2 = .ok m := by
  have hlast : lastQuestion fs specifier context = specifier := by
    rw [lastQuestion, hfirst]
    rfl
  rw [value_resolve_lastQuestion h, hlast, hfirst]
  rfl

/-- **A failure of the strict host that carries a URL** is followed by the
answer to the second question. -/
theorem resolve_of_again (h : syntheticFormat? (Specifier.classify specifier) = none)
    {why : ResolveError} (hfirst : StrictHost.resolve fs specifier context = .error why)
    {again : Text} (hagain : SecondQuestion fs specifier why again) :
    (resolve fs (StrictHost.resolver fs) () specifier context).value.2
      = (StrictHost.resolve fs again context).mapError .resolve := by
  have hlast : lastQuestion fs specifier context = again := by
    rw [lastQuestion, hfirst, secondQuestion_iff.mp hagain]
    rfl
  rw [value_resolve_lastQuestion h, hlast]

end ModuleHooks.Import
