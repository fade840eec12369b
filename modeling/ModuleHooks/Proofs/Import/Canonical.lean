import ModuleHooks.Proofs.Import.StrictHost
import ModuleHooks.Proofs.Url.RoundTrip
/-!
# The URL of a module, resolved again

A module is known by its URL, so the text of the URL should lead to the module and to nothing
else. The URL of a file is looked up as it was read, but not every URL that is answered with was
read: that of a package is made from the path of its target, and keeps the `..` of a path inside
the package or of the entry in the manifest, and what is read relative to such a URL may keep it,
too. Reading the text of such a URL walks along the segments, and arrives at another URL for what
is, links aside, the same place.

So a URL is resolved to the result that it came from exactly if it is canonical
(`resolve_again`): it is that of a module of the host, or that of a file in which no segment
leads up. A URL that is neither may come from an importer of another scheme, and the specifier
that its text is then taken for is that of a package.
-/

namespace ModuleHooks.StrictHost

variable {fs : FileSystem} {specifier : Text} {context : ResolveContext} {m : ResolvedModule}

/-- **A canonical URL**: that of a module of the host, or that of a file in which no segment
leads up. -/
def IsCanonical (url : Url) : Prop :=
  (∃ name, url = { scheme := "node", path := .opaqueText name })
    ∨ (url.scheme = "file".toList ∧ ['.', '.'] ∉ url.segmentList)

/-! ## The URL that is looked up -/

/-- **The ways from a specifier to the URL that is looked up.** -/
inductive LeadsTo (specifier : Text) (parent : Option Url) : Url → Prop where
  /-- A relative specifier is a reference to the importer. -/
  | reference {base url : Url} : isRelative specifier = true → parent = some base →
      base.join specifier = .ok url → LeadsTo specifier parent url
  /-- A URL of a file is looked up as it is read. -/
  | absolute {url : Url} : Url.parse specifier = .ok url → url.scheme = "file".toList →
      LeadsTo specifier parent url
  /-- The target of a package is a path, and so is a specifier without an importer. -/
  | path {p : Path} {url : Url} : Url.ofFilePath? p = some url → LeadsTo specifier parent url

/-- **An answer is a module of the host, or what is found at a URL.** -/
theorem exists_of_resolve (h : resolve fs specifier context = .ok m) :
    (∃ name, Builtin.lookup specifier = .found name
      ∧ m = { url := { scheme := "node", path := .opaqueText name }, format := some .builtin,
              shortCircuit := true })
    ∨ (Builtin.lookup specifier = .unrelated ∧
      ∃ url, LeadsTo specifier context.parentUrl url ∧ resolveUrl fs specifier url = .ok m) := by
  have hpackage : resolvePackage fs specifier context.parentUrl = .ok m →
      ∃ url, LeadsTo specifier context.parentUrl url ∧ resolveUrl fs specifier url = .ok m := by
    intro h
    obtain ⟨_, _, url, -, -, hurl, -, hanswer⟩ := exists_nearestPackage_of_resolvePackage h
    exact ⟨url, .path hurl, hanswer⟩
  unfold resolve at h
  split at h
  · next name hlookup =>
    cases h
    exact Or.inl ⟨name, hlookup, rfl⟩
  · cases h
  · next hlookup =>
    refine Or.inr ⟨hlookup, ?_⟩
    split at h
    · next hrelative =>
      unfold resolveRelative at h
      split at h
      · next base hparent =>
        dsimp only at h
        split at h
        · next url hurl => exact ⟨url, .reference hrelative hparent hurl, h⟩
        · cases h
      · cases hpath : Url.ofFilePath? specifier with
        | none =>
          rw [hpath] at h
          cases h
        | some url =>
          rw [hpath] at h
          exact ⟨url, .path hpath, h⟩
    · split at h
      · next url hparse =>
        split at h
        · next hfile => exact ⟨url, .absolute hparse (beq_iff_eq.mp hfile), h⟩
        · exact hpackage h
      · exact hpackage h

/-- Whatever way leads to it, the URL is made. -/
theorem LeadsTo.made {parent : Option Url} (hparent : ∀ base, parent = some base → base.Made)
    {url : Url} (h : LeadsTo specifier parent url) : url.Made := by
  cases h with
  | reference _ hbase hurl => exact .join (hparent _ hbase) hurl
  | absolute hurl => exact .parse hurl
  | path hurl => exact .ofFilePath hurl

/-- Only a reference leads to a URL of another scheme. -/
theorem LeadsTo.scheme_eq {parent : Option Url} {url : Url} (h : LeadsTo specifier parent url)
    (hrelative : isRelative specifier = false) : url.scheme = "file".toList := by
  cases h with
  | reference hreference =>
    rw [hrelative] at hreference
    cases hreference
  | absolute _ hscheme => exact hscheme
  | path hurl => exact (Url.isFileForm_of_ofFilePath? hurl).scheme_eq

/-! ## The text of a URL as a specifier -/

/-- The text of a URL begins with a letter, so it is no relative specifier. -/
theorem isRelative_render {url : Url} (h : url.IsFormed) : isRelative url.render = false := by
  obtain ⟨c, r, hscheme, hc⟩ := h.exists_scheme
  have hne : ∀ d : Char, d.isAlpha = false → d ≠ c := fun d hd heq => by
    rw [heq, hc] at hd
    cases hd
  have hdot := hne '.' (by decide)
  have hslash := hne '/' (by decide)
  rw [isRelative, Url.render, hscheme]
  simp [Text.startsWith, List.isPrefixOf, hdot, hslash]

/-- No module of the host has the text of a URL of a file for its name. -/
theorem lookup_of_file (r : Text) : Builtin.lookup ("file:".toList ++ r) = .unrelated := by
  have hmodules : ∀ m ∈ Builtin.modules, ':' ∉ m := by decide
  have hmem : Builtin.modules.contains ("file:".toList ++ r) = false :=
    Bool.eq_false_iff.mpr fun h => hmodules _ (List.contains_iff_mem.mp h) (by simp)
  have hscheme : Text.stripStart? "node:" ("file:".toList ++ r) = none := rfl
  rw [Builtin.lookup, hscheme, hmem]
  rfl

/-- The URL of a file on this machine has no host. -/
theorem authority_of_toFilePath? {url : Url} (h : url.IsFileForm) {p : Path}
    (hp : url.toFilePath? = some p) : url.authority = some { host := .domain [] } := by
  obtain ⟨host, hauthority, hlocal⟩ := h.exists_host
  by_cases hempty : host = .domain []
  · rw [hauthority, hempty]
  · have hhost : url.host? = some host := by
      rw [Url.host?, hauthority]
      exact if_neg hempty
    have hforeign :
        (url.host?.isNone || url.host? == some (.domain "localhost".toList)) = false := by
      rw [hhost]
      exact beq_eq_false_iff_ne.mpr fun heq => hlocal (Option.some_inj.mp heq)
    unfold Url.toFilePath? at hp
    rw [hforeign] at hp
    split at hp <;> cases hp

/-- **The text of the URL of a file** is a specifier that is looked up at the URL after a walk
along its segments. -/
theorem resolve_render {url : Url} (h : url.IsFileForm) {p : Path}
    (hp : url.toFilePath? = some p) (context : ResolveContext) :
    resolve fs url.render context = resolveUrl fs url.render url.walked := by
  have hlookup : Builtin.lookup url.render = .unrelated := by
    rw [Url.render, h.scheme_eq]
    exact lookup_of_file _
  have hfile : Url.isFileScheme url.walked.scheme = true := beq_iff_eq.mpr h.scheme_eq
  unfold resolve
  rw [hlookup, isRelative_render h.isFormed,
    Url.parse_render h (authority_of_toFilePath? h hp)]
  simp only [hfile, if_true, Bool.false_eq_true, if_false]

/-- The text of the URL of a module of the host is a name of the module. -/
theorem resolve_node {name : Text} (h : Builtin.lookup specifier = .found name)
    (context : ResolveContext) :
    resolve fs (Url.render { scheme := "node", path := .opaqueText name }) context
      = .ok { url := { scheme := "node", path := .opaqueText name }, format := some .builtin,
              shortCircuit := true } := by
  have hname : (Builtin.modules.contains name || Builtin.schemeOnly.contains name) = true := by
    unfold Builtin.lookup at h
    split at h
    · split_ifs at h with hmem
      cases h
      exact hmem
    · split_ifs at h with hmem
      cases h
      rw [hmem]
      rfl
  have htext : Url.render { scheme := "node", path := .opaqueText name }
      = "node:".toList ++ name := by
    simp [Url.render, Url.renderFront, Url.renderPath, Url.marked]
  have hlookup : Builtin.lookup ("node:".toList ++ name) = .found name := by
    have hscheme : Text.stripStart? "node:" ("node:".toList ++ name) = some name := rfl
    rw [Builtin.lookup, hscheme]
    exact if_pos hname
  unfold resolve
  rw [htext, hlookup]

/-! ## Resolving twice -/

/-- What is found at a URL does not depend on the specifier, and is found at no other URL. -/
theorem resolveUrl_eq_ok_iff {url : Url} {s : Text} (h : resolveUrl fs s url = .ok m)
    (s' : Text) (again : Url) : resolveUrl fs s' again = .ok m ↔ again = url := by
  obtain ⟨path, node, hpath, hnode, hne, rfl⟩ := eq_of_resolveUrl h
  constructor
  · intro hagain
    obtain ⟨_, _, -, -, -, heq⟩ := eq_of_resolveUrl hagain
    exact (congrArg ResolvedModule.url heq).symm
  · rintro rfl
    unfold resolveUrl
    simp only [hpath, hnode, if_neg hne]

/-- **A module is found again at its URL exactly if the URL is canonical.**

Let a specifier be resolved, from no importer or from one whose URL was made in one of the three
ways there are. From any importer whatever, the text of the URL in the result is resolved to the
same result exactly if the URL is that of a module of the host, or that of a file in which no
segment leads up. What the text of any other URL of a file is resolved to, if anything, has a
canonical URL. -/
theorem resolve_again (hparent : ∀ base, context.parentUrl = some base → base.Made)
    (h : resolve fs specifier context = .ok m) (again : ResolveContext) :
    (resolve fs m.url.render again = .ok m ↔ IsCanonical m.url)
      ∧ (m.url.scheme = "file".toList → ∀ m', resolve fs m.url.render again = .ok m' →
        IsCanonical m'.url) := by
  rcases exists_of_resolve h with ⟨name, hlookup, rfl⟩ | ⟨-, url, hleads, hanswer⟩
  · exact ⟨iff_of_true (resolve_node hlookup again) (Or.inl ⟨name, rfl⟩),
      fun hfile => absurd (List.cons_eq_cons.mp hfile).1 (by decide)⟩
  have hformed : url.IsFormed := (hleads.made hparent).isFormed
  obtain ⟨path, node, hpath, -, -, hm⟩ := eq_of_resolveUrl hanswer
  have hurl : m.url = url := congrArg ResolvedModule.url hm
  have hnode : ∀ name, url ≠ { scheme := "node", path := .opaqueText name } := by
    rintro name rfl
    cases hpath
  rw [hurl]
  by_cases hfile : url.scheme = "file".toList
  · have hform : url.IsFileForm := hformed.isFileForm hfile
    rw [resolve_render hform hpath]
    refine ⟨?_, fun _ m' hagain => ?_⟩
    · rw [resolveUrl_eq_ok_iff hanswer, Url.walked_eq_self_iff hform, IsCanonical]
      simp only [hnode, exists_false, false_or, hfile, true_and]
    · obtain ⟨_, _, -, -, -, rfl⟩ := eq_of_resolveUrl hagain
      exact Or.inr ⟨hfile, Url.notMem_walked url⟩
  · -- What the text leads to instead is the path of a package, if it leads anywhere.
    refine ⟨iff_of_false (fun hagain => ?_) ?_, fun h => absurd h hfile⟩
    · rcases exists_of_resolve hagain with ⟨name, -, rfl⟩ | ⟨-, url', hleads', hanswer'⟩
      · exact hnode name hurl.symm
      · obtain rfl := (resolveUrl_eq_ok_iff hanswer _ _).mp hanswer'
        exact hfile (hleads'.scheme_eq (isRelative_render hformed))
    · rintro (⟨name, heq⟩ | ⟨hscheme, -⟩)
      · exact hnode name heq
      · exact hfile hscheme

/-- A project with a package that has a script and a directory beside it. -/
def layered : FileSystem where
  nodes := [(["app".toList], .directory), (["app".toList, "node_modules".toList], .directory),
    (["app".toList, "node_modules".toList, "widget".toList], .directory),
    (["app".toList, "node_modules".toList, "widget".toList, "lib".toList], .directory),
    (["app".toList, "node_modules".toList, "widget".toList, "util.js".toList], .file [])]

/-- **Two URLs of one script**: of the package it is found at a URL that leads up, which is never
found again. -/
theorem resolve_again_layered :
    let context : ResolveContext := { parentUrl := Url.ofFilePath? "/app/main.js" }
    let moduleAt (segments : List Text) : ResolvedModule :=
      { url := Url.fileUrl (.domain []) segments, format := some .commonJs }
    let direct := moduleAt (List.map String.toList ["app", "node_modules", "widget", "util.js"])
    let climbing :=
      moduleAt (List.map String.toList ["app", "node_modules", "widget", "lib", "..", "util.js"])
    (resolve layered "widget/util.js" context = .ok direct
        ∧ ∀ again, resolve layered direct.url.render again = .ok direct)
      ∧ resolve layered "widget/lib/../util.js" context = .ok climbing
        ∧ ∀ again, resolve layered climbing.url.render again ≠ .ok climbing := by
  intro context moduleAt direct climbing
  have hparent : ∀ base, Url.ofFilePath? "/app/main.js" = some base → base.Made :=
    fun base hbase => .ofFilePath hbase
  have hdirect : resolve layered "widget/util.js" context = .ok direct := by decide +kernel
  have hclimbing : resolve layered "widget/lib/../util.js" context = .ok climbing := by
    decide +kernel
  refine ⟨⟨hdirect, fun again => (resolve_again hparent hdirect again).1.mpr ?_⟩, hclimbing,
    fun again hagain => ?_⟩
  · exact Or.inr (by decide)
  · rcases (resolve_again hparent hclimbing again).1.mp hagain with ⟨name, heq⟩ | ⟨-, hmem⟩
    · cases heq
    · exact hmem (by decide)

end ModuleHooks.StrictHost
