import ModuleHooks.Proofs.FileSystem.Lookup
import ModuleHooks.Proofs.Import.StrictHost
import ModuleHooks.Proofs.Path.Ascent
/-!
# Where the files of packages are

The strict host goes from the name of a package to its directory, and from there along
one piece of a path: what the specifier says behind the name, else the entry in the
manifest, else `index.js` (`packagePiece`). It checks nothing on the way. So the answer
is where the piece leads (`exists_of_resolvePackage`), and it is inside the package if
the piece stays below its beginning. That it is not the directory itself is due to the
strictness of the host, which answers with no directory.

A piece with enough `..` in it leads out, from any package to any file
(`not_forall_inside`).
-/

namespace ModuleHooks

open ModuleHooks.Path

namespace Url

theorem normalNames_settle {p : Path} (hp : isAbsolute p = true) :
    normalNames (settle p) = normalNames p := by
  rw [normalNames_eq (isAbsolute_settle p), steps_settle, normalNames_eq hp]

end Url

namespace PackageSpecifier

/-- **A name without dots for segments**: none of them stands for a directory. -/
def IsProperName (name : Text) : Prop :=
  ['.'] ∉ Text.splitOn '/' name ∧ ['.', '.'] ∉ Text.splitOn '/' name

instance : DecidablePred IsProperName := fun name =>
  inferInstanceAs (Decidable (['.'] ∉ Text.splitOn '/' name ∧ ['.', '.'] ∉ Text.splitOn '/' name))

/-- The name of a package is a relative path. -/
theorem IsPackageName.isAbsolute {name : Text} (h : IsPackageName name) :
    Path.isAbsolute name = false := by
  cases h with
  | plain hslash => exact isAbsolute_of_notMem hslash
  | withScope => rfl

/-- No segment of the name of a package is empty. -/
theorem IsPackageName.nil_notMem {name : Text} (h : IsPackageName name) :
    [] ∉ Text.splitOn '/' name := by
  cases h with
  | plain hslash hne =>
    rw [Text.splitOn_of_notMem hslash]
    simpa using hne.symm
  | withScope hslash hne hslash' hbase =>
    rw [Text.splitOn_append_cons, Text.splitOn_of_notMem (by simpa using hslash),
      Text.splitOn_of_notMem hslash']
    simpa using (isNameSegment_iff.mp hbase).1.symm

end PackageSpecifier

namespace StrictHost

open PackageSpecifier

variable {fs : FileSystem} {specifier : Text} {context : ResolveContext}

/-- **An import of a package**: neither a module of the host nor relative nor the URL of a
file. -/
structure IsPackageImport (specifier : Text) : Prop where
  unrelated : Builtin.lookup specifier = .unrelated
  notRelative : isRelative specifier = false
  notFileUrl : ∀ url, Url.parse specifier = .ok url → Url.isFileScheme url.scheme = false

/-- Without a colon, a specifier is no URL by itself. -/
theorem IsPackageImport.of_not_mem (hlookup : Builtin.lookup specifier = .unrelated)
    (hrelative : isRelative specifier = false) (hcolon : ':' ∉ specifier) :
    IsPackageImport specifier := by
  refine ⟨hlookup, hrelative, fun url hurl => ?_⟩
  rw [Url.parse_of_colonsBehindSlash (Url.colonsBehindSlash_of_not_mem hcolon)] at hurl
  cases hurl

theorem IsPackageImport.resolve_eq (h : IsPackageImport specifier) (fs : FileSystem)
    (context : ResolveContext) :
    resolve fs specifier context = resolvePackage fs specifier context.parentUrl := by
  rw [resolve, h.unrelated]
  dsimp only
  rw [h.notRelative, if_neg Bool.false_ne_true]
  cases hurl : Url.parse specifier with
  | error why => rfl
  | ok url =>
    dsimp only
    rw [h.notFileUrl url hurl, if_neg Bool.false_ne_true]

/-- **The piece of a path that leads into a package.** -/
def packagePiece (fs : FileSystem) (dir : Path) (subpath : Option Text) : Path :=
  subpath.getD
    (((Manifest.read? fs (Path.join dir "package.json")).bind Manifest.entry).getD "index.js")

theorem packageTarget_eq (fs : FileSystem) (dir : Path) (subpath : Option Text) :
    packageTarget fs dir subpath = Path.join dir (packagePiece fs dir subpath) := by
  cases subpath with
  | some sub => rfl
  | none =>
    rw [packageTarget, packageEntry, packagePiece, Option.getD_none]
    cases (Manifest.read? fs (Path.join dir "package.json")).bind Manifest.entry <;> rfl

/-- **The directory of a package** has the segments of the name below `node_modules`. -/
theorem normalNames_packageDirectory {name : Text} (h : IsPackageName name)
    (hproper : IsProperName name) {above : Path} (habove : isAbsolute above = true) :
    normalNames (packageDirectory name above)
      = normalNames above ++ "node_modules".toList :: Text.splitOn '/' name := by
  have hmodules : Text.splitOn '/' "node_modules" = ["node_modules".toList] := by decide
  have hsegments : ∀ s ∈ Text.splitOn '/' name, isIdle s = false ∧ s ≠ ['.', '.'] := by
    refine fun s hs => ⟨isIdle_eq_false_iff.mpr ⟨?_, ?_⟩, ?_⟩ <;> rintro rfl
    · exact h.nil_notMem hs
    · exact hproper.1 hs
    · exact hproper.2 hs
  rw [packageDirectory, normalNames_join (isAbsolute_join habove _) h.isAbsolute,
    normalNames_join habove rfl, hmodules, reach_eq_append hsegments,
    reach_eq_append (by decide), List.append_assoc, List.singleton_append]

/-- The answer to an import of a package is what its piece leads to in a directory of the
package. -/
theorem exists_of_resolvePackage {m : ResolvedModule} {parent : Option Url}
    (h : resolvePackage fs specifier parent = .ok m) :
    ∃ package above dir, parse specifier = some package ∧ above ∈ ancestors (searchStart fs parent)
      ∧ dir = packageDirectory package.name above ∧ fs.isDirectory dir = true
      ∧ ∃ p node, m.url.toFilePath? = some p ∧ fs.node? p = some node ∧ node ≠ .directory
        ∧ p = Url.settle (Path.join dir (packagePiece fs dir package.subpath)) := by
  obtain ⟨package, dir, url, hparse, hnear, -, hpath, hanswer⟩ :=
    exists_nearestPackage_of_resolvePackage h
  obtain ⟨above, habove, hdir⟩ := List.mem_map.mp (List.mem_of_find?_eq_some hnear)
  obtain ⟨p, node, hp, hnode, hne, rfl⟩ := eq_of_resolveUrl hanswer
  refine ⟨package, above, dir, hparse, habove, hdir.symm, List.find?_some hnear, p, node, hp,
    hnode, hne, ?_⟩
  rw [← packageTarget_eq]
  exact Option.some.inj (hp.symm.trans hpath)

/-- **What an import of a package is answered with.**

Without links, the answer to an import of a package is found from a directory of that
name below `node_modules` in the importer's directory or above it. If the piece of the path
that leads on from there is relative, the answer has the names that a walk along the piece
leads to; and if the piece stays below its beginning, the answer is inside the directory. -/
theorem resolve_inside {m : ResolvedModule} (hlinks : fs.LinkFree)
    (himport : IsPackageImport specifier) (h : resolve fs specifier context = .ok m) :
    ∃ package above dir p, parse specifier = some package
      ∧ above ∈ ancestors (searchStart fs context.parentUrl)
      ∧ dir = packageDirectory package.name above ∧ fs.isDirectory dir = true
      ∧ m.url.toFilePath? = some p
      ∧ (IsProperName package.name → normalNames dir
        = normalNames above ++ "node_modules".toList :: Text.splitOn '/' package.name)
      ∧ (isAbsolute (packagePiece fs dir package.subpath) = false →
        normalNames p
            = reach (normalNames dir) (Text.splitOn '/' (packagePiece fs dir package.subpath))
          ∧ (StaysBelow (packagePiece fs dir package.subpath) → Inside dir p)) := by
  rw [himport.resolve_eq] at h
  obtain ⟨package, above, dir, hparse, habove, hdir, hdirectory, p, node, hp, hnode, hne, hsettle⟩ :=
    exists_of_resolvePackage h
  have habsolute : isAbsolute above = true :=
    isAbsolute_of_mem_ancestors (isAbsolute_searchStart fs context.parentUrl) habove
  have hroot : isAbsolute dir = true :=
    hdir ▸ isAbsolute_join (isAbsolute_join habsolute _) _
  have hnames : normalNames p
      = normalNames (Path.join dir (packagePiece fs dir package.subpath)) := by
    rw [hsettle, Url.normalNames_settle (isAbsolute_join hroot _)]
  refine ⟨package, above, dir, p, hparse, habove, hdir, hdirectory, hp, fun hproper => ?_,
    fun hrelative => ⟨?_, fun hbelow => ?_⟩⟩
  · rw [hdir, normalNames_packageDirectory (eq_of_parse hparse).1 hproper habsolute]
  · rw [hnames, normalNames_join hroot hrelative]
  · obtain ⟨names, hinside⟩ := exists_normalNames_join hroot hrelative hbelow
    rw [← hnames] at hinside
    refine ⟨names, ?_, hinside⟩
    -- The directory itself is no answer, and without links nothing else has its names.
    rintro rfl
    rw [List.append_nil] at hinside
    exact hne (hlinks.node?_congr (Url.isAbsolute_of_toFilePath? hp) hroot hinside hnode
      (FileSystem.isDirectory_iff.mp hdirectory))

/-- From `/app/src/main.js`, the file `lib/index.js` of the package `@ui/kit`. -/
theorem resolve_inside_scoped :
    let fs : FileSystem := {
      nodes := [(["app".toList], .directory), (["app".toList, "node_modules".toList], .directory),
        (["app".toList, "node_modules".toList, "@ui".toList], .directory),
        (["app".toList, "node_modules".toList, "@ui".toList, "kit".toList], .directory),
        (["app".toList, "node_modules".toList, "@ui".toList, "kit".toList, "lib".toList],
          .directory),
        (["app".toList, "node_modules".toList, "@ui".toList, "kit".toList, "lib".toList,
          "index.js".toList], .file [])] }
    let context : ResolveContext := {
      parentUrl := some (Url.fileUrl (.domain []) ["app".toList, "src".toList, "main.js".toList]) }
    ∃ m above p, resolve fs "@ui/kit/lib/../lib/index.js" context = .ok m
      ∧ above ∈ ancestors (searchStart fs context.parentUrl) ∧ m.url.toFilePath? = some p
      ∧ Inside (packageDirectory "@ui/kit" above) p := by
  intro fs context
  have himport : IsPackageImport "@ui/kit/lib/../lib/index.js" :=
    .of_not_mem (by decide) (by decide) (by decide)
  obtain ⟨m, hm⟩ : ∃ m, resolve fs "@ui/kit/lib/../lib/index.js" context = .ok m :=
    ⟨{ url := Url.fileUrl (.domain []) ["app".toList, "node_modules".toList, "@ui".toList,
          "kit".toList, "lib".toList, "..".toList, "lib".toList, "index.js".toList]
       format := some .commonJs }, by decide⟩
  obtain ⟨package, above, dir, p, hparse, habove, rfl, -, hp, -, hinside⟩ :=
    resolve_inside (by decide : fs.LinkFree) himport hm
  obtain rfl : package = ⟨"@ui/kit".toList, some "lib/../lib/index.js".toList⟩ :=
    Option.some.inj (hparse.symm.trans (by decide))
  have hpiece : packagePiece fs (packageDirectory "@ui/kit" above)
      (some "lib/../lib/index.js".toList) = "lib/../lib/index.js".toList := rfl
  rw [hpiece] at hinside
  exact ⟨m, above, p, hm, habove, hp, (hinside (by decide)).2 (by decide)⟩

/-- **A package does not keep its imports in.** A piece that goes up often enough leads to
any file, here from a package to one of the importer's own. -/
theorem not_forall_inside :
    ¬∀ (fs : FileSystem) (context : ResolveContext) (specifier : Text)
      (package : PackageSpecifier) (m : ResolvedModule) (p : Path), fs.LinkFree →
      IsPackageImport specifier → parse specifier = some package →
      resolve fs specifier context = .ok m → m.url.toFilePath? = some p →
      ∃ above ∈ ancestors (searchStart fs context.parentUrl),
        Inside (packageDirectory package.name above) p := by
  intro h
  let fs : FileSystem := {
    nodes := [(["app".toList], .directory), (["app".toList, "node_modules".toList], .directory),
      (["app".toList, "node_modules".toList, "widget".toList], .directory),
      (["app".toList, "secret.js".toList], .file [])] }
  let context : ResolveContext := {
    parentUrl := some (Url.fileUrl (.domain []) ["app".toList, "main.js".toList]) }
  let m : ResolvedModule := {
    url := Url.fileUrl (.domain []) ["app".toList, "node_modules".toList, "widget".toList,
      "..".toList, "..".toList, "secret.js".toList]
    format := some .commonJs }
  have himport : IsPackageImport "widget/../../secret.js" :=
    .of_not_mem (by decide) (by decide) (by decide)
  have hanswer : resolve fs "widget/../../secret.js" context = .ok m := by decide
  have hpath : m.url.toFilePath? = some "/app/node_modules/widget/../../secret.js".toList := by
    decide
  obtain ⟨above, habove, names, -, hinside⟩ := h fs context "widget/../../secret.js"
    ⟨"widget".toList, some "../../secret.js".toList⟩ m _ (by decide) himport (by decide) hanswer
    hpath
  have hstart : ancestors (searchStart fs context.parentUrl) = ["/app".toList, "/".toList] := by
    decide
  have hfile : normalNames "/app/node_modules/widget/../../secret.js"
      = ["app".toList, "secret.js".toList] := by
    decide
  rw [hstart] at habove
  rw [hfile] at hinside
  rcases List.mem_pair.mp habove with rfl | rfl
  · have hdir : normalNames (packageDirectory "widget" "/app")
        = ["app".toList, "node_modules".toList, "widget".toList] := by
      decide
    rw [hdir] at hinside
    exact absurd (List.cons_eq_cons.mp (List.cons_eq_cons.mp hinside).2).1 (by decide)
  · have hdir : normalNames (packageDirectory "widget" "/")
        = ["node_modules".toList, "widget".toList] := by
      decide
    rw [hdir] at hinside
    exact absurd (List.cons_eq_cons.mp hinside).1 (by decide)

end StrictHost

end ModuleHooks
