import Mathlib.Logic.Relation
import ModuleHooks.Proofs.Import.Containment
import ModuleHooks.Proofs.Path.Components
/-!
# The nearest package

The strict host looks for a package from the directory of the importer upwards, and stops at the
first directory that holds one of its name. Whether the package then has what is asked for does
not matter any more: no package further up is a second choice (`resolve_nearest`).

Two facts carry this. A directory is shorter than a path in it, so the list of the directories
above is the list of the directory above, with one more in front (`ancestors_eq`); hence an
importer without a package beside it is answered as one in the directory above would be. And an
answer asks little of the file system: what stands at the target, and what the manifests above it
say (`resolveUrl_congr`).
-/

namespace ModuleHooks.StrictHost

variable {fs fs' : FileSystem} {specifier : Text} {context : ResolveContext}

/-! ## The directories above -/

/-- **A path and the paths above it**: each is the directory of the one before. -/
def AtOrAbove : Path → Path → Prop := Relation.ReflTransGen fun p q => Path.parent? p = some q

/-- The bound on the number of paths does not matter, as long as it is the length of the first. -/
theorem ancestorsFrom_eq {n m : Nat} {p : Path} (hn : p.length ≤ n) (hm : p.length ≤ m) :
    ancestorsFrom n p = ancestorsFrom m p := by
  induction n generalizing m p with
  | zero =>
    rw [List.length_eq_zero_iff.mp (Nat.le_zero.mp hn)]
    cases m with
    | zero => rfl
    | succ m => rfl
  | succ n ih =>
    cases m with
    | zero =>
      rw [List.length_eq_zero_iff.mp (Nat.le_zero.mp hm)]
      rfl
    | succ m =>
      rw [ancestorsFrom, ancestorsFrom]
      cases habove : Path.parent? p with
      | none => rfl
      | some above =>
        have hlt := Path.length_lt_of_parent? habove
        exact congrArg (List.cons p) (ih (by omega) (by omega))

/-- **The paths above a path are those above its directory**, and the path itself. -/
theorem ancestors_eq (p : Path) :
    ancestors p = p :: ((Path.parent? p).map ancestors).getD [] := by
  cases hp : p.length with
  | zero =>
    rw [List.length_eq_zero_iff.mp hp]
    rfl
  | succ n =>
    rw [ancestors, hp, ancestorsFrom]
    cases habove : Path.parent? p with
    | none => rfl
    | some above =>
      have hlt := Path.length_lt_of_parent? habove
      exact congrArg (List.cons p) (ancestorsFrom_eq (by omega) le_rfl)

theorem mem_ancestors_iff {p q : Path} : q ∈ ancestors p ↔ AtOrAbove p q := by
  constructor
  · intro h
    induction hn : p.length using Nat.strong_induction_on generalizing p with
    | _ n ih =>
      rw [ancestors_eq] at h
      obtain rfl | h := List.mem_cons.mp h
      · exact Relation.ReflTransGen.refl
      · cases habove : Path.parent? p with
        | none =>
          rw [habove] at h
          cases h
        | some above =>
          rw [habove] at h
          have hlt := Path.length_lt_of_parent? habove
          exact Relation.ReflTransGen.head habove (ih _ (hn ▸ hlt) h rfl)
  · intro h
    induction h using Relation.ReflTransGen.head_induction_on with
    | refl =>
      rw [ancestors_eq]
      exact List.mem_cons_self
    | head habove _ ih =>
      rw [ancestors_eq, habove]
      exact List.mem_cons_of_mem _ ih

/-! ## What an answer asks of the file system -/

/-- **Two file systems that agree on a target**: on whether a file, a directory or nothing is
there, and on what the manifests above it say. -/
structure AgreeOnTarget (fs fs' : FileSystem) (target : Path) : Prop where
  /-- One has a file at the target if the other has one. -/
  isFile : fs'.isFile target = fs.isFile target
  /-- One has a directory at the target if the other has one. -/
  isDirectory : fs'.isDirectory target = fs.isDirectory target
  /-- The manifests in the directories above the target say the same. -/
  manifests : ∀ dir above, Path.parent? target = some dir → AtOrAbove dir above →
    Manifest.read? fs' (Path.join above "package.json")
      = Manifest.read? fs (Path.join above "package.json")

/-- The format that manifests give is that of the first one there is. -/
theorem packageFormat_cons (fs : FileSystem) (dir : Path) (dirs : List Path) :
    packageFormat fs (dir :: dirs)
      = match (Manifest.read? fs (Path.join dir "package.json")).map Manifest.kind with
        | some kind => if kind = some "module".toList then .module else .commonJs
        | none => packageFormat fs dirs := by
  rw [packageFormat, List.findSome?_cons]
  cases Manifest.read? fs (Path.join dir "package.json") with
  | none => rfl
  | some m => rfl

theorem packageFormat_congr {dirs : List Path}
    (h : ∀ dir ∈ dirs, (Manifest.read? fs' (Path.join dir "package.json")).map Manifest.kind
      = (Manifest.read? fs (Path.join dir "package.json")).map Manifest.kind) :
    packageFormat fs' dirs = packageFormat fs dirs := by
  induction dirs with
  | nil => rfl
  | cons dir dirs ih =>
    obtain ⟨hdir, hdirs⟩ := List.forall_mem_cons.mp h
    rw [packageFormat_cons, packageFormat_cons, hdir, ih hdirs]

/-- **The format of a file is told from the manifests above it**, by what they say about the kind
of modules. -/
theorem detectFormat_congr {p : Path}
    (h : ∀ dir above, Path.parent? p = some dir → AtOrAbove dir above →
      (Manifest.read? fs' (Path.join above "package.json")).map Manifest.kind
        = (Manifest.read? fs (Path.join above "package.json")).map Manifest.kind) :
    detectFormat fs' p = detectFormat fs p := by
  have hread : ∀ above ∈ ((Path.parent? p).map ancestors).getD [],
      (Manifest.read? fs' (Path.join above "package.json")).map Manifest.kind
        = (Manifest.read? fs (Path.join above "package.json")).map Manifest.kind := by
    intro above habove
    cases hdir : Path.parent? p with
    | none =>
      rw [hdir] at habove
      cases habove
    | some dir =>
      rw [hdir] at habove
      exact h dir above hdir (mem_ancestors_iff.mp habove)
  rw [detectFormat, detectFormat, packageFormat_congr hread]

/-- **What a URL is answered with** is a matter of what stands at its path. -/
theorem resolveUrl_cases {url : Url} {target : Path} (h : url.toFilePath? = some target)
    (fs : FileSystem) (specifier : Text) :
    (fs.node? target = none
        ∧ resolveUrl fs specifier url = .error (.moduleNotFound specifier (some url)))
      ∨ (fs.isDirectory target = true
        ∧ resolveUrl fs specifier url = .error (.directoryImport specifier url))
      ∨ (fs.isFile target = true
        ∧ resolveUrl fs specifier url = .ok { url, format := some (detectFormat fs target) }) := by
  obtain hnone | ⟨-, hdirectory⟩ | ⟨-, hfile⟩ :=
    @FileSystem.node?_cases fs _ (Url.isAbsolute_of_toFilePath? h)
  · exact Or.inl ⟨hnone, resolveUrl_of_none h hnone⟩
  · exact Or.inr (Or.inl ⟨hdirectory, resolveUrl_of_isDirectory h hdirectory⟩)
  · exact Or.inr (Or.inr ⟨hfile, resolveUrl_of_isFile h hfile⟩)

/-- Two file systems that agree on the target of a URL answer alike. -/
theorem resolveUrl_congr {url : Url} {target : Path} (h : url.toFilePath? = some target)
    (hagree : AgreeOnTarget fs fs' target) :
    resolveUrl fs' specifier url = resolveUrl fs specifier url := by
  obtain ⟨hnone, hanswer⟩ | ⟨hdirectory, hanswer⟩ | ⟨hfile, hanswer⟩ :=
    resolveUrl_cases h fs specifier
  · have hnone' : fs'.node? target = none := by
      have hfile : fs'.isFile target = false := by
        rw [hagree.isFile, FileSystem.isFile, hnone]
      have hdirectory : fs'.isDirectory target = false := by
        rw [hagree.isDirectory, FileSystem.isDirectory, hnone]
      obtain hnone' | ⟨-, h'⟩ | ⟨-, h'⟩ :=
        @FileSystem.node?_cases fs' _ (Url.isAbsolute_of_toFilePath? h)
      · exact hnone'
      · exact absurd (hdirectory.symm.trans h') Bool.false_ne_true
      · exact absurd (hfile.symm.trans h') Bool.false_ne_true
    rw [hanswer, resolveUrl_of_none h hnone']
  · rw [hanswer, resolveUrl_of_isDirectory h (hagree.isDirectory.trans hdirectory)]
  · rw [hanswer, resolveUrl_of_isFile h (hagree.isFile.trans hfile),
      detectFormat_congr fun dir above hdir habove =>
        congrArg _ (hagree.manifests dir above hdir habove)]

/-! ## The walk -/

/-- **The importer is a file in a directory.** -/
def ImportsFrom (context : ResolveContext) (dir : Path) : Prop :=
  ∃ url file, context.parentUrl = some url ∧ url.toFilePath? = some file
    ∧ Path.parent? file = some dir

theorem ImportsFrom.searchStart_eq {dir : Path} (h : ImportsFrom context dir) (fs : FileSystem) :
    searchStart fs context.parentUrl = dir := by
  obtain ⟨url, file, hurl, hfile, hdir⟩ := h
  rw [searchStart, hurl, Option.bind_some, hfile, Option.bind_some, hdir, Option.getD_some]

theorem nearestPackage_of_isDirectory {parent : Option Url} {name : Text}
    (h : fs.isDirectory (packageDirectory name (searchStart fs parent)) = true) :
    nearestPackage fs parent name = some (packageDirectory name (searchStart fs parent)) := by
  rw [nearestPackage, ancestors_eq, List.map_cons, List.find?_cons_of_pos h]

/-- **Without a package beside the importer** the search is that of an importer one directory
further up. -/
theorem nearestPackage_of_not_isDirectory {parent parent' : Option Url} {name : Text}
    (h : fs.isDirectory (packageDirectory name (searchStart fs parent)) = false)
    (habove : Path.parent? (searchStart fs parent) = some (searchStart fs parent')) :
    nearestPackage fs parent name = nearestPackage fs parent' name := by
  rw [nearestPackage, ancestors_eq, habove, List.map_cons,
    List.find?_cons_of_neg (by rw [h]; exact Bool.false_ne_true)]
  rfl

theorem nearestPackage_eq_none_iff {parent : Option Url} {name : Text} :
    nearestPackage fs parent name = none ↔
      ∀ dir, AtOrAbove (searchStart fs parent) dir →
        fs.isDirectory (packageDirectory name dir) = false := by
  simp only [nearestPackage, List.find?_eq_none, List.forall_mem_map, mem_ancestors_iff,
    Bool.not_eq_true]

/-- The importer counts only for where its search ends. -/
theorem resolvePackage_congr {parent parent' : Option Url} {package : PackageSpecifier}
    (hparse : PackageSpecifier.parse specifier = some package)
    (h : nearestPackage fs parent package.name = nearestPackage fs parent' package.name) :
    resolvePackage fs specifier parent = resolvePackage fs specifier parent' := by
  cases hnear : nearestPackage fs parent package.name with
  | none =>
    rw [resolvePackage_of_nearestPackage_none hparse hnear,
      resolvePackage_of_nearestPackage_none hparse (h ▸ hnear)]
  | some dir =>
    obtain ⟨url, hurl, -, hanswer⟩ := resolvePackage_of_nearestPackage hparse hnear
    obtain ⟨url', hurl', -, hanswer'⟩ := resolvePackage_of_nearestPackage hparse (h ▸ hnear)
    obtain rfl := Option.some.inj (hurl.symm.trans hurl')
    rw [hanswer, hanswer']

/-- **There is no URL in the failure** exactly if the walk comes to no package, or if the
specifier names none. -/
theorem resolvePackage_eq_moduleNotFound_iff {parent : Option Url} :
    resolvePackage fs specifier parent = .error (.moduleNotFound specifier none) ↔
      ∀ package, PackageSpecifier.parse specifier = some package →
        nearestPackage fs parent package.name = none := by
  cases hparse : PackageSpecifier.parse specifier with
  | none =>
    refine iff_of_true ?_ (fun package h => nomatch h)
    rw [resolvePackage, hparse]
  | some package =>
    simp only [Option.some.injEq, forall_eq']
    cases hnear : nearestPackage fs parent package.name with
    | none => exact iff_of_true (resolvePackage_of_nearestPackage_none hparse hnear) rfl
    | some dir =>
      refine iff_of_false (fun h => ?_) (fun h => nomatch h)
      obtain ⟨url, -, hpath, hanswer⟩ := resolvePackage_of_nearestPackage hparse hnear
      rw [hanswer] at h
      obtain ⟨-, h'⟩ | ⟨-, h'⟩ | ⟨-, h'⟩ := resolveUrl_cases hpath fs specifier
      · rw [h'] at h
        cases h
      · rw [h'] at h
        cases h
      · rw [h'] at h
        cases h

/-- **The nearest package wins, and only it.** A package is imported from a file in a directory.

If the directory holds a package of that name, its target is what the specifier says behind the
name, else the entry of the package, and what stands at the target decides: nothing and a
directory are failures that carry the URL of the target, and a file is the answer. Two file
systems with that package agree on the outcome if they agree on the target, whatever packages
either of them has further up.

If the directory does not hold the package and is not the root, the outcome is that of an import
from a file in the directory above, failures included. And the failure without a URL comes about
exactly if no directory from this one to the root holds the package, or if the specifier names
none. -/
theorem resolve_nearest {dir : Path} (himport : IsPackageImport specifier)
    (hfrom : ImportsFrom context dir) :
    (∀ package, PackageSpecifier.parse specifier = some package →
      (fs.isDirectory (packageDirectory package.name dir) = true →
        ∃ url target,
          Url.ofFilePath? (packageTarget fs (packageDirectory package.name dir) package.subpath)
            = some url
          ∧ url.toFilePath? = some target
          ∧ ((fs.node? target = none ∧ resolve fs specifier context
                = .error (.moduleNotFound specifier (some url)))
            ∨ (fs.isDirectory target = true ∧ resolve fs specifier context
                = .error (.directoryImport specifier url))
            ∨ (fs.isFile target = true ∧ resolve fs specifier context
                = .ok { url, format := some (detectFormat fs target) }))
          ∧ ∀ fs' : FileSystem, fs'.isDirectory (packageDirectory package.name dir) = true →
            packageTarget fs' (packageDirectory package.name dir) package.subpath
              = packageTarget fs (packageDirectory package.name dir) package.subpath →
            AgreeOnTarget fs fs' target →
            resolve fs' specifier context = resolve fs specifier context)
      ∧ (fs.isDirectory (packageDirectory package.name dir) = false →
        ∀ above context', Path.parent? dir = some above → ImportsFrom context' above →
          resolve fs specifier context = resolve fs specifier context'))
    ∧ (resolve fs specifier context = .error (.moduleNotFound specifier none) ↔
      ∀ package, PackageSpecifier.parse specifier = some package →
        ∀ above, AtOrAbove dir above →
          fs.isDirectory (packageDirectory package.name above) = false) := by
  have hnear : ∀ {fs : FileSystem} {package : PackageSpecifier},
      fs.isDirectory (packageDirectory package.name dir) = true →
      nearestPackage fs context.parentUrl package.name
        = some (packageDirectory package.name dir) := by
    intro fs package h
    have hstart := hfrom.searchStart_eq fs
    rw [nearestPackage_of_isDirectory (by rw [hstart]; exact h), hstart]
  refine ⟨fun package hparse => ⟨fun hdirectory => ?_, fun hnot above context' habove hfrom' => ?_⟩,
    ?_⟩
  · obtain ⟨url, hurl, hpath, hanswer⟩ :=
      resolvePackage_of_nearestPackage hparse (hnear hdirectory)
    refine ⟨url, _, hurl, hpath, ?_, fun fs' hdirectory' htarget hagree => ?_⟩
    · rw [himport.resolve_eq, hanswer]
      exact resolveUrl_cases hpath fs specifier
    · obtain ⟨url', hurl', -, hanswer'⟩ :=
        resolvePackage_of_nearestPackage hparse (hnear hdirectory')
      rw [htarget, hurl] at hurl'
      obtain rfl := Option.some.inj hurl'
      rw [himport.resolve_eq, himport.resolve_eq, hanswer, hanswer', resolveUrl_congr hpath hagree]
  · rw [himport.resolve_eq, himport.resolve_eq]
    have hstart := hfrom.searchStart_eq fs
    refine resolvePackage_congr hparse (nearestPackage_of_not_isDirectory ?_ ?_)
    · rw [hstart]
      exact hnot
    · rw [hstart, hfrom'.searchStart_eq fs]
      exact habove
  · rw [himport.resolve_eq, resolvePackage_eq_moduleNotFound_iff]
    simp only [nearestPackage_eq_none_iff, hfrom.searchStart_eq fs]

/-- A package installed twice: for the application, and once more, without its files, for one of
the directories in it. -/
def installedTwice : FileSystem where
  nodes := [(["app".toList], .directory), (["app".toList, "node_modules".toList], .directory),
    (["app".toList, "node_modules".toList, "widget".toList], .directory),
    (["app".toList, "node_modules".toList, "widget".toList, "util.js".toList], .file []),
    (["app".toList, "lib".toList], .directory),
    (["app".toList, "lib".toList, "node_modules".toList], .directory),
    (["app".toList, "lib".toList, "node_modules".toList, "widget".toList], .directory)]

/-- **The law where a package is shadowed**: from a file below the nearer package, the file that
only the package further up has is not found. Removing the package further up changes nothing. -/
theorem resolve_nearest_installedTwice :
    let removed := installedTwice.remove "/app/node_modules/widget".toList
    let importer (names : List Text) : ResolveContext :=
      { parentUrl := some (Url.fileUrl (.domain []) (names ++ ["main.js".toList])) }
    let lib := importer ["app".toList, "lib".toList]
    ∃ url, url.toFilePath? = some "/app/lib/node_modules/widget/util.js".toList
      ∧ resolve installedTwice "widget/util.js" lib
        = .error (.moduleNotFound "widget/util.js" (some url))
      ∧ resolve removed "widget/util.js" lib = resolve installedTwice "widget/util.js" lib
      ∧ resolve installedTwice "widget/util.js"
          (importer ["app".toList, "lib".toList, "deep".toList])
        = resolve installedTwice "widget/util.js" lib
      ∧ resolve removed "widget/util.js" (importer ["app".toList])
        = .error (.moduleNotFound "widget/util.js" none) := by
  intro removed importer lib
  have himport : IsPackageImport "widget/util.js" :=
    .of_not_mem (by decide) (by decide) (by decide)
  have hparse : PackageSpecifier.parse "widget/util.js"
      = some ⟨"widget".toList, some "util.js".toList⟩ := by decide
  have hlib : ImportsFrom lib "/app/lib".toList :=
    ⟨_, "/app/lib/main.js".toList, rfl, by decide, by decide⟩
  have hdeep : ImportsFrom (importer ["app".toList, "lib".toList, "deep".toList])
      "/app/lib/deep".toList :=
    ⟨_, "/app/lib/deep/main.js".toList, rfl, by decide, by decide⟩
  have happ : ImportsFrom (importer ["app".toList]) "/app".toList :=
    ⟨_, "/app/main.js".toList, rfl, by decide, by decide⟩
  obtain ⟨url, target, hurl, hpath, hanswer, hframe⟩ :=
    ((@resolve_nearest installedTwice _ _ _ himport hlib).1 _ hparse).1 (by decide)
  have hup := ((@resolve_nearest installedTwice _ _ _ himport hdeep).1 _ hparse).2 (by decide)
    _ lib (by decide) hlib
  have hnone := (@resolve_nearest removed _ _ _ himport happ).2
  obtain rfl : "/app/lib/node_modules/widget/util.js".toList = target := by
    have hsettled := Url.toFilePath?_ofFilePath? hurl
    rw [hpath] at hsettled
    rw [Option.some.inj hsettled]
    decide
  refine ⟨url, hpath, ?_, hframe removed (by decide) rfl ⟨by decide, by decide, ?_⟩, hup,
    hnone.mpr fun package hpackage above habove => ?_⟩
  · obtain ⟨-, h⟩ | ⟨h, -⟩ | ⟨h, -⟩ := hanswer
    · exact h
    · exact absurd h (by decide)
    · exact absurd h (by decide)
  · intro dir above hdir habove
    obtain rfl : "/app/lib/node_modules/widget".toList = dir :=
      Option.some.inj (hdir ▸ by decide)
    have hall : ∀ above ∈ ancestors "/app/lib/node_modules/widget".toList,
        Manifest.read? removed (Path.join above "package.json")
          = Manifest.read? installedTwice (Path.join above "package.json") := by decide
    exact hall above (mem_ancestors_iff.mpr habove)
  · obtain rfl := Option.some.inj (hparse.symm.trans hpackage)
    have hall : ∀ above ∈ ancestors "/app".toList,
        removed.isDirectory (packageDirectory "widget".toList above) = false := by decide
    exact hall above (mem_ancestors_iff.mpr habove)

end ModuleHooks.StrictHost
