import ModuleHooks.Proofs.Url.NamedPath
/-!
# The form of the URLs of files

A URL is made from a text, from a reference and another URL, or from a path; nothing else makes
one (`Made`). However it was made, the URL of a file has one form (`Made.isFileForm`): no user,
no password and no port, a host that is not `localhost`, and parts in which everything that
needs it is encoded. An empty segment does not stand in front of others, and no segment stands
for the directory itself.

A segment that stands for the directory above is a matter of its own. Reading a text leaves
none, but the URL of a path keeps each `..` of the path, so all that can be said of such a
segment is that it is `..` and no other spelling (`IsFileSegment.eq_above`).
-/

namespace ModuleHooks.Url

/-! ## The ways to a URL -/

/-- **A URL that is made**, in one of the three ways there are. -/
inductive Made : Url → Prop where
  /-- The URL that a text is read as. -/
  | parse {t : Text} {url : Url} : parse t = .ok url → Made url
  /-- The URL that a reference is read as. -/
  | join {base url : Url} {t : Text} : Made base → base.join t = .ok url → Made url
  /-- The URL of a path. -/
  | ofFilePath {p : Path} {url : Url} : ofFilePath? p = some url → Made url

/-! ## The form -/

/-- **A segment of the URL of a file.** -/
structure IsFileSegment (s : Text) : Prop where
  /-- What needs it is encoded. -/
  encoded : ∀ c ∈ s, segmentSet c = false
  /-- It does not stand for the directory itself. -/
  isHere_eq : isHere s = false
  /-- It stands for the directory above in one spelling only. -/
  eq_above : isAbove s = true → s = ['.', '.']

/-- **The segments of the URL of a file.** -/
structure IsFilePath (l : List Text) : Prop where
  /-- There is one. -/
  ne_nil : l ≠ []
  /-- An empty one in front is the only one. -/
  eq_root : l.head? = some [] → l = [[]]
  /-- Each is a segment of a file. -/
  isFileSegment : ∀ s ∈ l, IsFileSegment s

/-- **The form of the URL of a file.** -/
structure IsFileForm (url : Url) : Prop where
  /-- The scheme is that of files. -/
  scheme_eq : url.scheme = "file".toList
  /-- There is a host and nothing beside it, and the host is not `localhost`. -/
  exists_host : ∃ host, url.authority = some { host } ∧ host ≠ .domain "localhost".toList
  /-- The path has the segments of a file. -/
  exists_path : ∃ l, url.path = .segments l ∧ IsFilePath l
  /-- The query is encoded. -/
  query : ∀ q, url.query = some q → ∀ c ∈ q, Percent.specialQuerySet c = false
  /-- The fragment is encoded. -/
  fragment : ∀ f, url.fragment = some f → ∀ c ∈ f, Percent.fragmentSet c = false

/-! ## Segments -/

theorem keeps_segmentSet : Percent.Keeps segmentSet :=
  Percent.keeps_of_forall_ascii (by decide)

theorem isFileSegment_nil : IsFileSegment [] where
  encoded _ hc := absurd hc List.not_mem_nil
  isHere_eq := by decide
  eq_above h := absurd h (by decide)

/-- A letter is a plain character. -/
theorem isPlain_of_isAlpha {c : Char} (h : c.isAlpha = true) : Path.isPlain c = true := by
  rw [Path.isPlain, Char.isAlphanum, h]
  rfl

/-- A drive letter in normal form is a segment of a file. -/
theorem isFileSegment_drive {a : Char} (ha : a.isAlpha = true) : IsFileSegment [a, ':'] := by
  have hlower : Text.lowerAscii [a, ':'] = [a.toLower, ':'] := rfl
  have habove : isAbove [a, ':'] = false := by
    rw [isAbove, hlower]
    simp
  refine ⟨?_, ?_, fun h => ?_⟩
  · exact List.forall_mem_cons.mpr
      ⟨segmentSet_of_isPlain (isPlain_of_isAlpha ha), List.forall_mem_singleton.mpr (by decide)⟩
  · rw [isHere, hlower]
    simp
  · rw [habove] at h
    cases h

/-! ## Segments in normal form -/

section Normal

variable {P : Text → Prop} (hdrive : ∀ a : Char, a.isAlpha = true → P [a, ':'])

include hdrive

/-- What is pushed is the segment itself or a drive letter. -/
theorem forall_mem_pushSegment {file : Bool} {stack : List Text} {s : Text}
    (hstack : ∀ t ∈ stack, P t) (hs : isAbove s = false → isHere s = false → P s) :
    ∀ t ∈ pushSegment file stack s, P t := by
  unfold pushSegment
  split_ifs with habove hhere hletter
  · unfold popSegment
    split
    · exact hstack
    · split_ifs
      · exact hstack
      · exact (List.forall_mem_cons.mp hstack).2
  · exact hstack
  · rw [Bool.and_eq_true] at hletter
    obtain ⟨a, b, rfl, ha, -⟩ := exists_of_isDrive hletter.2
    exact List.forall_mem_singleton.mpr (hdrive a ha)
  · exact List.forall_mem_cons.mpr
      ⟨hs (Bool.eq_false_of_not_eq_true habove) (Bool.eq_false_of_not_eq_true hhere), hstack⟩

/-- **What segments in normal form consist of**: segments that stand for themselves, an empty
one and a drive letter. -/
theorem forall_mem_normalSegments (hnil : P []) {file : Bool} {stack segments : List Text}
    (hstack : ∀ t ∈ stack, P t)
    (h : ∀ s ∈ segments, isAbove s = false → isHere s = false → P s) :
    ∀ t ∈ normalSegments file stack segments, P t := by
  fun_induction normalSegments file stack segments with
  | case1 stack => exact fun t ht => hstack t (List.mem_reverse.mp ht)
  | case2 stack s hdots =>
    have hpush : ∀ t ∈ pushSegment file stack s, P t :=
      forall_mem_pushSegment hdrive hstack (h s List.mem_cons_self)
    exact fun t ht => List.forall_mem_cons.mpr ⟨hnil, hpush⟩ t (List.mem_reverse.mp ht)
  | case3 stack s hdots =>
    have hpush : ∀ t ∈ pushSegment file stack s, P t :=
      forall_mem_pushSegment hdrive hstack (h s List.mem_cons_self)
    exact fun t ht => hpush t (List.mem_reverse.mp ht)
  | case4 stack s rest hrest ih =>
    exact ih (forall_mem_pushSegment hdrive hstack (h s List.mem_cons_self))
      fun t ht => h t (List.mem_cons_of_mem s ht)

end Normal

/-- Of the segments of a file only empty ones at the front are dropped. -/
theorem forall_mem_dropEmptyFront {P : Text → Prop} (hnil : P []) {segments : List Text}
    (h : ∀ s ∈ segments, P s) : ∀ s ∈ dropEmptyFront segments, P s := by
  unfold dropEmptyFront
  split
  · exact List.forall_mem_singleton.mpr hnil
  · exact fun s hs => h s ((List.dropWhile_sublist _).subset hs)

/-- What is left after that is the root or begins with a name. -/
theorem eq_root_of_head?_dropEmptyFront {segments : List Text}
    (h : (dropEmptyFront segments).head? = some []) : dropEmptyFront segments = [[]] := by
  unfold dropEmptyFront at h ⊢
  split at h
  · rfl
  · next hne =>
    have hhead := List.head?_dropWhile_not (· == ([] : Text)) segments
    rw [h] at hhead
    exact absurd hhead (by decide)

/-- The segments that a text is written in are encoded and hold no slash. -/
theorem forall_mem_writtenSegments {t s : Text} (h : s ∈ writtenSegments true t) :
    ∀ c ∈ s, segmentSet c = false := by
  obtain ⟨piece, hpiece, rfl⟩ := List.mem_map.mp h
  refine Percent.forall_mem_encode keeps_segmentSet (fun c hc hpath => ?_)
  have hslash := Text.eq_false_of_mem_splitBy hpiece c hc
  rw [Bool.or_eq_false_iff, Bool.true_and, beq_eq_false_iff_ne, beq_eq_false_iff_ne] at hslash
  rw [segmentSet, Percent.adding, hpath]
  simp [hslash.1, hslash.2]

/-- **The path of a file that is read** has the segments of a file, if the segments before it
are ones. -/
theorem isFilePath_pathAfter {stack : List Text} (hstack : ∀ s ∈ stack, IsFileSegment s)
    (t : Text) : IsFilePath (pathAfter "file" stack t) where
  ne_nil := by
    obtain ⟨s, l, hsegments⟩ := exists_pathAfter stack t
    exact hsegments ▸ List.cons_ne_nil s l
  eq_root := eq_root_of_head?_dropEmptyFront
  isFileSegment := by
    refine forall_mem_dropEmptyFront isFileSegment_nil ?_
    refine forall_mem_normalSegments (fun a => isFileSegment_drive) isFileSegment_nil hstack
      (fun s hs habove hhere => ⟨forall_mem_writtenSegments hs, hhere, fun h => ?_⟩)
    rw [habove] at h
    cases h

/-- No way up is left of segments in normal form. -/
theorem isAbove_of_mem_dropEmptyFront {segments : List Text} {s : Text}
    (h : s ∈ dropEmptyFront (normalSegments true [] segments)) : isAbove s = false := by
  have hdrive : ∀ a : Char, a.isAlpha = true → isAbove [a, ':'] = false := fun a ha => by
    refine Bool.eq_false_iff.mpr (fun h => ?_)
    exact absurd (List.cons_eq_cons.mp ((isFileSegment_drive ha).eq_above h)).2 (by decide)
  refine forall_mem_dropEmptyFront (P := fun s => isAbove s = false) (by decide) ?_ s h
  exact forall_mem_normalSegments hdrive (by decide)
    (fun s hs => absurd hs List.not_mem_nil) (fun s _ habove _ => habove)

/-! ## URLs that are read -/

theorem isFileForm_fileUrl {host : Host} (hhost : host ≠ .domain "localhost".toList)
    {l : List Text} (hl : IsFilePath l) : IsFileForm (fileUrl host l) where
  scheme_eq := rfl
  exists_host := ⟨host, rfl, hhost⟩
  exists_path := ⟨l, rfl, hl⟩
  query _ h := nomatch h
  fragment _ h := nomatch h

section Form

variable {url : Url} (h : IsFileForm url)

include h

theorem IsFileForm.withPath {l : List Text} (hl : IsFilePath l) :
    IsFileForm { url with path := .segments l } where
  scheme_eq := h.scheme_eq
  exists_host := h.exists_host
  exists_path := ⟨l, rfl, hl⟩
  query := h.query
  fragment := h.fragment

theorem IsFileForm.withFragment (fragment : Option Text) :
    IsFileForm { url with fragment := fragment.map encodeFragment } where
  scheme_eq := h.scheme_eq
  exists_host := h.exists_host
  exists_path := h.exists_path
  query := h.query
  fragment f hf := by
    obtain ⟨t, -, rfl⟩ := Option.map_eq_some_iff.mp hf
    exact Percent.forall_mem_encode_self (Percent.keeps_of_forall_ascii (by decide)) t

theorem IsFileForm.withTail (query fragment : Option Text) :
    IsFileForm (withTail url query fragment) where
  scheme_eq := h.scheme_eq
  exists_host := h.exists_host
  exists_path := h.exists_path
  query q hq := by
    obtain ⟨t, -, rfl⟩ := Option.map_eq_some_iff.mp hq
    rw [h.scheme_eq]
    exact Percent.forall_mem_encode_self (Percent.keeps_of_forall_ascii (by decide)) t
  fragment := (h.withFragment fragment).fragment

theorem IsFileForm.isFilePath : IsFilePath (segmentList url) := by
  obtain ⟨l, hpath, hl⟩ := h.exists_path
  rw [segmentList, hpath]
  exact hl

theorem IsFileForm.isFileSegment_of_mem_directoryStack {s : Text} (hs : s ∈ directoryStack url) :
    IsFileSegment s := by
  have hmem : ∀ t ∈ (segmentList url).reverse, IsFileSegment t := fun t ht =>
    h.isFilePath.isFileSegment t (List.mem_reverse.mp ht)
  unfold directoryStack at hs
  split at hs
  · exact absurd hs List.not_mem_nil
  · next last r heq =>
    rw [heq] at hmem
    split_ifs at hs
    · exact hmem s hs
    · exact hmem s (List.mem_cons_of_mem last hs)

end Form

theorem domain_nil_ne_localhost : Host.domain [] ≠ .domain "localhost".toList := by decide

/-- **A path that is read** behind a host and after segments of a file. -/
theorem isFileForm_pathAfter {host : Host} (hhost : host ≠ .domain "localhost".toList)
    {stack : List Text} (hstack : ∀ s ∈ stack, IsFileSegment s) (path : Text)
    (query fragment : Option Text) :
    IsFileForm (withTail (fileUrl host (pathAfter "file" stack path)) query fragment) :=
  (isFileForm_fileUrl hhost (isFilePath_pathAfter hstack path)).withTail query fragment

/-- **What follows two slashes** is a host and a path. -/
theorem isFileForm_readFileHost {t : Text} {url : Url} (h : readFileHost t = .ok url) :
    IsFileForm url := by
  unfold readFileHost at h
  dsimp only at h
  split at h
  · -- No host is written, or a drive letter in its place.
    rw [pure_bind, if_pos (by decide)] at h
    cases h
    exact isFileForm_pathAfter domain_nil_ne_localhost (List.forall_mem_nil _) _ _ _
  · cases hparse : Host.parse (t.takeWhile (!endsAuthority true ·)) with
    | error why =>
      rw [hparse] at h
      cases h
    | ok host =>
      rw [hparse] at h
      change (if _ then _ else _) = _ at h
      split at h
      · cases h
        exact isFileForm_pathAfter domain_nil_ne_localhost (List.forall_mem_nil _) _ _ _
      · next hhost =>
        -- The host is kept, unless the path begins with a drive letter.
        cases h
        rw [Bool.or_eq_true, not_or, decide_eq_true_iff, decide_eq_true_iff] at hhost
        have hkept : ∀ drive : Bool,
            (if drive = true then .domain [] else host) ≠ Host.domain "localhost".toList := by
          rintro (_ | _)
          · exact hhost.2
          · exact domain_nil_ne_localhost
        exact isFileForm_pathAfter (hkept _) (List.forall_mem_nil _) _ _ _

section Base

variable {base : Option Url} (hbase : ∀ b, base = some b → IsFileForm b)

include hbase

/-- What follows one slash is a path, which may begin with the drive letter of the base. -/
theorem isFileForm_readRootedFile (t : Text) : IsFileForm (readRootedFile base t) := by
  have hhost : baseHost base ≠ .domain "localhost".toList := by
    cases base with
    | none => exact domain_nil_ne_localhost
    | some b =>
      obtain ⟨host, hauthority, hne⟩ := (hbase b rfl).exists_host
      rw [baseHost, hauthority]
      exact hne
  unfold readRootedFile
  dsimp only
  split_ifs
  · exact isFileForm_pathAfter domain_nil_ne_localhost (List.forall_mem_nil _) _ _ _
  · split
    · next s l hsegments =>
      obtain ⟨b, rfl, hb⟩ := Option.map_eq_some_iff.mp hsegments
      have hs : IsFileSegment s :=
        (hbase b rfl).isFilePath.isFileSegment s (hb ▸ List.mem_cons_self)
      split_ifs
      · exact isFileForm_pathAfter domain_nil_ne_localhost (List.forall_mem_singleton.mpr hs) _ _ _
      · exact isFileForm_pathAfter hhost (List.forall_mem_nil _) _ _ _
    · exact isFileForm_pathAfter hhost (List.forall_mem_nil _) _ _ _

/-- **A reference to a file** keeps the form. -/
theorem isFileForm_readFile {t : Text} {url : Url} (h : readFile base t = .ok url) :
    IsFileForm url := by
  have hfresh : ∀ path query fragment,
      IsFileForm (withTail (fileUrl (.domain []) (pathAfter "file" [] path)) query fragment) :=
    isFileForm_pathAfter domain_nil_ne_localhost (List.forall_mem_nil _)
  unfold readFile at h
  split at h
  · next c r =>
    split at h
    · -- Two slashes are followed by a host, one is followed by a path.
      split at h
      · split at h
        · exact isFileForm_readFileHost h
        · cases h
          exact isFileForm_readRootedFile hbase _
      · cases h
        exact isFileForm_readRootedFile hbase _
    · split at h
      · cases h
        exact hfresh _ _ _
      · next b =>
        have hb : IsFileForm b := hbase b rfl
        dsimp only at h
        split at h
        · -- Without a path the one of the base is kept.
          split at h <;> cases h
          · exact hb.withTail _ _
          · exact hb.withFragment _
        · split at h <;> cases h
          · exact hfresh _ _ _
          · refine (hb.withPath (isFilePath_pathAfter (fun s hs => ?_) _)).withTail _ _
            exact hb.isFileSegment_of_mem_directoryStack hs
  · split at h <;> cases h
    · exact isFileForm_fileUrl domain_nil_ne_localhost ⟨List.cons_ne_nil _ _, fun _ => rfl,
        List.forall_mem_singleton.mpr isFileSegment_nil⟩
    · next b => exact (hbase b rfl).withFragment none

end Base

/-! ## All URLs -/

/-- What is read relative to a base has the scheme of the base. -/
theorem scheme_of_readRelative {base url : Url} {t : Text} (h : readRelative base t = .ok url) :
    url.scheme = base.scheme := by
  unfold readRelative at h
  dsimp only at h
  split at h
  · split at h
    · split at h
      · split at h <;> exact scheme_of_readAfterSlashes h
      · cases h
        rfl
    · split at h
      · split at h <;> cases h <;> rfl
      · cases h
        rfl
  · cases h
    rfl

/-- A reference to a file leads to a file. -/
theorem scheme_of_readFile {base url : Url} {t : Text}
    (hbase : base.scheme = "file".toList)
    (h : readFile (some base) t = .ok url) : url.scheme = "file".toList := by
  cases t with
  | nil =>
    cases h
    exact hbase
  | cons c r =>
    by_cases hc : isSlash c = true
    · exact (hasPathOf_readFile_of_slash hc h).1
    have hslash : (decide (c = '/') || decide (c = '\\')) = isSlash c := rfl
    unfold readFile at h
    dsimp only at h
    rw [hslash, if_neg hc] at h
    split_ifs at h
    · split at h <;> cases h <;> exact hbase
    · cases h
      rfl
    · cases h
      exact hbase

/-- What has no scheme of its own has the scheme of the base. -/
theorem scheme_of_readWithoutScheme {base url : Url} {t : Text}
    (h : readWithoutScheme (some base) t = .ok url) :
    url.scheme = base.scheme := by
  unfold readWithoutScheme at h
  dsimp only at h
  split at h
  · cases h
    rfl
  · cases h
  · split_ifs at h
    exact scheme_of_readRelative h
  · split_ifs at h with hfile
    · have hbase : base.scheme = "file".toList := beq_iff_eq.mp hfile
      rw [scheme_of_readFile hbase h, hbase]
    · exact scheme_of_readRelative h

/-- **What is true of every URL**: the scheme begins with a letter, and a URL of a file has the
form of one. -/
structure IsFormed (url : Url) : Prop where
  /-- The scheme begins with a letter. -/
  exists_scheme : ∃ c r, url.scheme = c :: r ∧ c.isAlpha = true
  /-- If it is that of files, the URL has their form. -/
  isFileForm : url.scheme = "file".toList → IsFileForm url

theorem IsFileForm.isFormed {url : Url} (h : IsFileForm url) : IsFormed url where
  exists_scheme := ⟨'f', "ile".toList, h.scheme_eq, by decide⟩
  isFileForm _ := h

/-- A scheme that is read begins with a letter. -/
theorem exists_of_splitScheme? {t scheme rest : Text}
    (h : splitScheme? t = some (scheme, rest)) : ∃ c r, scheme = c :: r ∧ c.isAlpha = true := by
  unfold splitScheme? at h
  split at h
  · next c r =>
    split_ifs at h with hc
    split at h
    · cases h
      have hchar : isSchemeChar c = true := by
        rw [isSchemeChar, hc]
        rfl
      have hlower : (!c.isAlpha || c.toLower.isAlpha) = true :=
        Path.forall_isPlain (p := fun c => !c.isAlpha || c.toLower.isAlpha) (by decide)
          (isPlain_of_isAlpha hc)
      rw [hc] at hlower
      exact ⟨c.toLower, _, by rw [List.takeWhile_cons_of_pos hchar]; rfl, hlower⟩
    · cases h
  · cases h

/-- A URL of a scheme that is not that of files has no other form to keep. -/
theorem isFormed_of_scheme_eq {url : Url} {scheme : Text}
    (hletter : ∃ c r, scheme = c :: r ∧ c.isAlpha = true) (hother : scheme ≠ "file".toList)
    (h : url.scheme = scheme) : IsFormed url where
  exists_scheme := h ▸ hletter
  isFileForm hfile := absurd (h.symm.trans hfile) hother

section Read

variable {base : Option Url} (hbase : ∀ b, base = some b → IsFormed b)

include hbase

theorem isFormed_of_readWithScheme {scheme rest : Text}
    (hletter : ∃ c r, scheme = c :: r ∧ c.isAlpha = true) {url : Url}
    (h : readWithScheme base scheme rest = .ok url) : IsFormed url := by
  unfold readWithScheme at h
  dsimp only at h
  split at h
  · next hfile =>
    -- The base that is kept is one of a file, too.
    refine (isFileForm_readFile (fun b hb => ?_) h).isFormed
    obtain ⟨rfl, hscheme⟩ := Option.filter_eq_some_iff.mp hb
    exact (hbase b rfl).isFileForm ((beq_iff_eq.mp hscheme).trans (beq_iff_eq.mp hfile))
  · next hfile =>
    refine isFormed_of_scheme_eq hletter (fun heq => hfile (beq_iff_eq.mpr heq)) ?_
    split at h
    · split at h
      · next b hb =>
        split at h
        · exact (scheme_of_readRelative h).trans
            (beq_iff_eq.mp (Option.filter_eq_some_iff.mp hb).2)
        · exact scheme_of_readAfterSlashes h
      · exact scheme_of_readAfterSlashes h
    · exact scheme_of_readOpaqueOrRooted h

theorem isFormed_of_readWithoutScheme {t : Text} {url : Url}
    (h : readWithoutScheme base t = .ok url) : IsFormed url := by
  unfold readWithoutScheme at h
  split at h
  · cases h
  · next b =>
    have hb : IsFormed b := hbase b rfl
    split at h
    · next fragment =>
      cases h
      exact ⟨hb.exists_scheme, fun hfile => (hb.isFileForm hfile).withFragment (some fragment)⟩
    · cases h
    · next hpath =>
      -- A URL of a file has a segment, so this one is none.
      split_ifs at h
      refine isFormed_of_scheme_eq hb.exists_scheme (fun hfile => ?_) (scheme_of_readRelative h)
      obtain ⟨l, hl, hsegments⟩ := (hb.isFileForm hfile).exists_path
      cases hpath.symm.trans hl
      exact hsegments.ne_nil rfl
    · split_ifs at h with hfile
      · refine (isFileForm_readFile (fun b' hb' => ?_) h).isFormed
        exact Option.some_inj.mp hb' ▸ hb.isFileForm (beq_iff_eq.mp hfile)
      · exact isFormed_of_scheme_eq hb.exists_scheme (fun heq => hfile (beq_iff_eq.mpr heq))
          (scheme_of_readRelative h)

/-- **Reading keeps the form** of what it begins with. -/
theorem isFormed_of_read {t : Text} {url : Url} (h : read base t = .ok url) : IsFormed url := by
  unfold read at h
  dsimp only at h
  split at h
  · next hsplit => exact isFormed_of_readWithScheme hbase (exists_of_splitScheme? hsplit) h
  · exact isFormed_of_readWithoutScheme hbase h

end Read

/-! ## The URL of a path -/

/-- **A step of a path** becomes a segment of a file. The only step that leads up is `..`, and
its encoding is itself. -/
theorem isFileSegment_encode {s : Text} (h : Path.IsStep s) :
    IsFileSegment (Percent.encode Percent.fileNameSet s) where
  encoded := by
    refine Percent.forall_mem_encode keeps_segmentSet (fun c _ hc => ?_)
    rw [Percent.fileNameSet, Percent.adding, Bool.or_eq_false_iff] at hc
    rw [segmentSet, Percent.adding, Bool.or_eq_false_iff]
    refine ⟨hc.1, Bool.eq_false_iff.mpr fun hmem => ?_⟩
    have hslashes : c ∈ "/%\\".toList :=
      List.mem_cons.mpr ((List.mem_cons.mp (List.elem_iff.mp hmem)).imp_right
        (List.mem_cons_of_mem '%'))
    rw [List.elem_iff.mpr hslashes] at hc
    exact Bool.noConfusion hc.2
  isHere_eq := by
    refine Bool.eq_false_iff.mpr (fun hhere => ?_)
    have hs : s = ['.'] :=
      (Percent.decode_encode (by decide) s).symm.trans (decode_of_isHere hhere)
    exact (Path.isIdle_eq_false_iff.mp h.1).2 hs
  eq_above habove := by
    have hs : s = ['.', '.'] :=
      (Percent.decode_encode (by decide) s).symm.trans (decode_of_isAbove habove)
    rw [hs]
    decide

theorem isFilePath_fileSegments {names : List Text} (h : ∀ s ∈ names, Path.IsStep s) :
    IsFilePath (fileSegments names) := by
  cases names with
  | nil =>
    exact ⟨List.cons_ne_nil _ _, fun _ => rfl, List.forall_mem_singleton.mpr isFileSegment_nil⟩
  | cons s names =>
    refine ⟨fileSegments_ne_nil _, fun hroot => ?_, List.forall_mem_map.mpr fun t ht =>
      isFileSegment_encode (h t ht)⟩
    have hempty : s = [] :=
      (Percent.decode_encode (by decide) s).symm.trans
        (congrArg Percent.decode (Option.some_inj.mp hroot))
    exact absurd hempty (Path.isIdle_eq_false_iff.mp (h s List.mem_cons_self).1).1

theorem isFileForm_of_ofFilePath? {p : Path} {url : Url} (h : ofFilePath? p = some url) :
    IsFileForm url := by
  rw [ofFilePath?_of_isAbsolute (ofFilePath?_isSome_iff.mp (by rw [h]; rfl)),
    Option.some_inj] at h
  exact h ▸ isFileForm_fileUrl (by decide)
    (isFilePath_fileSegments fun s hs => Path.isStep_of_mem_steps hs)

/-- **Whatever way a URL is made, it is formed.** -/
theorem Made.isFormed {url : Url} (h : Made url) : IsFormed url := by
  induction h with
  | parse h => exact isFormed_of_read (fun b hb => by cases hb) h
  | join _ h ih => exact isFormed_of_read (fun b hb => Option.some_inj.mp hb ▸ ih) h
  | ofFilePath h => exact (isFileForm_of_ofFilePath? h).isFormed

end ModuleHooks.Url
