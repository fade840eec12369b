import ModuleHooks.Proofs.Url.LastSegment
import ModuleHooks.Proofs.Url.Reference
/-!
# The path that a reference names

What a reference to a file says about the path is only a part of its text:
blanks and controls at its ends do not count, nor do the scheme, the host, the
query and the fragment. `writtenPath` is what is left. Whatever the base is,
the file path of the URL has the class of that text, decoded
(`classify_join`, `classify_parse`) – unless the reference writes no path at
all, for then it names the base itself.
-/

namespace ModuleHooks.Url

open Specifier (classify classify_append_cons)

/-- What follows the scheme of a reference. -/
def afterScheme (t : Text) : Text :=
  match splitScheme? t with
  | some (_, rest) => rest
  | none => t

/-- What follows the host of a reference to a file, if one is written. A drive
letter is no host. -/
def afterHost (t : Text) : Text :=
  match t with
  | c :: d :: s =>
    if isSlash c && isSlash d then
      if isDrive (s.takeWhile (!endsAuthority true ·)) then s
      else s.dropWhile (!endsAuthority true ·)
    else t
  | _ => t

/-- **The path that is written in a reference.** -/
def writtenPath (t : Text) : Text := (cut (afterHost (afterScheme (clean t)))).1

/-- **The path that a reference names**: the written one, decoded, or that of
the base if none is written. -/
def namedPath (base : Url) (t : Text) : Text :=
  if (cut (afterScheme (clean t))).1 = [] then base.toFilePath?.getD []
  else Percent.decode (writtenPath t)

/-! ## Cutting -/

/-- **The path is what stands before the first mark.** -/
theorem fst_cut (t : Text) : (cut t).1 = (t.takeWhile (· != '#')).takeWhile (· != '?') := by
  have htake : ∀ {c : Char} {s r : Text}, c ∉ s → (s ++ c :: r).takeWhile (· != c) = s := by
    intro c s r hs
    rw [List.takeWhile_append_of_pos, List.takeWhile_cons_of_neg (by simp), List.append_nil]
    exact fun d hd => by simpa using ne_of_mem_of_not_mem hd hs
  have hall : ∀ {c : Char} {s : Text}, c ∉ s → s.takeWhile (· != c) = s := by
    intro c s hs
    exact List.takeWhile_eq_self_iff.mpr fun d hd => by simpa using ne_of_mem_of_not_mem hd hs
  -- The query begins at the first question mark of what is left in front of the fragment.
  have hquery : ∀ (front : Text) (fragment : Option Text),
      (match Text.splitFirst? "?" front with
        | some (path, query) => (path, some query, fragment)
        | none => (front, none, fragment)).1 = front.takeWhile (· != '?') := by
    intro front fragment
    by_cases hmem : '?' ∈ front
    · obtain ⟨path, query, rfl, hpath⟩ := List.eq_append_cons_of_mem hmem
      have hsplit : Text.splitFirst? "?" (path ++ '?' :: query) = some (path, query) :=
        Text.splitFirst?_append_cons hpath query
      rw [hsplit, htake hpath]
    · have hsplit : Text.splitFirst? "?" front = none := Text.splitFirst?_of_notMem hmem
      rw [hsplit, hall hmem]
  unfold cut
  by_cases hmem : '#' ∈ t
  · obtain ⟨front, fragment, rfl, hfront⟩ := List.eq_append_cons_of_mem hmem
    have hsplit : Text.splitFirst? "#" (front ++ '#' :: fragment) = some (front, fragment) :=
      Text.splitFirst?_append_cons hfront fragment
    rw [hsplit, htake hfront]
    exact hquery front (some fragment)
  · have hsplit : Text.splitFirst? "#" t = none := Text.splitFirst?_of_notMem hmem
    rw [hsplit, hall hmem]
    exact hquery t none

/-- A slash is no mark. -/
theorem fst_cut_of_isSlash {c : Char} (hc : isSlash c = true) (t : Text) :
    (cut (c :: t)).1 = c :: (cut t).1 := by
  have hmark : (c != '#') = true ∧ (c != '?') = true := by
    have hslash : c = '/' ∨ c = '\\' := by simpa [isSlash] using hc
    rcases hslash with rfl | rfl <;> decide
  rw [fst_cut, fst_cut]
  simp only [List.takeWhile_cons, hmark.1, hmark.2, if_true]

/-! ## URLs of files -/

/-- **A URL of a file**: it has the scheme of files, and its path has a segment. -/
structure IsFileUrl (url : Url) : Prop where
  /-- The scheme is that of files. -/
  scheme_eq : url.scheme = "file".toList
  /-- There is a segment, which may be empty. -/
  exists_path : ∃ s l, url.path = .segments (s :: l)

/-- Some segment is left of every path of a file. -/
theorem exists_pathAfter (stack : List Text) (t : Text) :
    ∃ s l, pathAfter "file" stack t = s :: l := by
  show ∃ s l, dropEmptyFront _ = s :: l
  unfold dropEmptyFront
  split
  · exact ⟨[], [], rfl⟩
  · next hne => exact List.exists_cons_of_ne_nil hne

/-! ## References to files -/

/-- **A URL with the path of a text.** The text that the segments are told from
need not be the text itself, but has the same class. -/
def HasPathOf (url : Url) (t : Text) : Prop :=
  url.scheme = "file".toList ∧ ∃ stack w, url.path = .segments (pathAfter "file" stack w)
    ∧ classify (Percent.decode w) = classify (Percent.decode t)

/-- The class of the file path is that of the text. -/
theorem HasPathOf.classify_eq {url : Url} {t : Text} (h : HasPathOf url t) {p : Path}
    (hp : url.toFilePath? = some p) : classify p = classify (Percent.decode t) := by
  obtain ⟨-, stack, w, hpath, hclass⟩ := h
  obtain ⟨segments, hsegments, -, rfl⟩ := eq_of_toFilePath? hp
  cases hpath.symm.trans hsegments
  rw [classify_pathAfter, hclass]

/-- Texts of the same class are told apart by no path. -/
theorem HasPathOf.congr {url : Url} {t t' : Text} (h : HasPathOf url t)
    (heq : classify (Percent.decode t) = classify (Percent.decode t')) : HasPathOf url t' := by
  obtain ⟨hscheme, stack, w, hpath, hclass⟩ := h
  exact ⟨hscheme, stack, w, hpath, hclass.trans heq⟩

/-- What ends a host is a slash, or there is no path. -/
theorem classify_drop_slash (s : Text) :
    classify (Percent.decode (if (cut (s.dropWhile (!endsAuthority true ·))).1 = [] then []
      else (cut (s.dropWhile (!endsAuthority true ·))).1.drop 1))
      = classify (Percent.decode (cut (s.dropWhile (!endsAuthority true ·))).1) := by
  have hhead := List.head?_dropWhile_not (!endsAuthority true ·) s
  generalize s.dropWhile (!endsAuthority true ·) = rest at hhead ⊢
  split_ifs with hempty
  · rw [hempty]
  cases rest with
  | nil => exact absurd rfl hempty
  | cons c r =>
    by_cases hc : isSlash c = true
    · rw [fst_cut_of_isSlash hc]
      exact (classify_decode_cons hc _).symm
    · refine absurd ?_ hempty
      have hmark : c = '?' ∨ c = '#' := by
        simp only [List.head?_cons, endsAuthority] at hhead
        simp only [isSlash] at hc
        simp at hhead hc
        tauto
      rw [fst_cut]
      rcases hmark with rfl | rfl <;> rfl

/-- What follows two slashes. -/
theorem hasPathOf_readFileHost {s : Text} {url : Url} (hread : readFileHost s = .ok url)
    {c d : Char} (hc : isSlash c = true) (hd : isSlash d = true) :
    HasPathOf url (cut (afterHost (c :: d :: s))).1 := by
  unfold readFileHost at hread
  unfold afterHost
  simp only [hc, hd, Bool.and_self, if_true]
  by_cases hdrive : isDrive (s.takeWhile (!endsAuthority true ·)) = true
  · simp only [hdrive, Bool.true_or, if_true, pure_bind, decide_true] at hread ⊢
    cases hread
    exact ⟨rfl, [], _, rfl, rfl⟩
  have hnot := Bool.eq_false_of_not_eq_true hdrive
  simp only [hnot, Bool.false_or, Bool.false_eq_true, if_false] at hread ⊢
  have hinner := classify_drop_slash s
  generalize s.dropWhile (!endsAuthority true ·) = rest at hread hinner ⊢
  -- With a host or without one, and whatever becomes of it, the path is what follows it.
  have hhost : ∀ host : Host,
      (if (decide (host = .domain []) || decide (host = .domain "localhost")) = true then
          pure (withTail (fileUrl (.domain []) (pathAfter "file" [] (cut rest).1)) (cut rest).2.1
            (cut rest).2.2)
        else
          pure (withTail (fileUrl (if beginsWithDrive (if (cut rest).1 = [] then []
              else (cut rest).1.drop 1) = true then .domain [] else host)
            (pathAfter "file" [] (if (cut rest).1 = [] then [] else (cut rest).1.drop 1)))
              (cut rest).2.1 (cut rest).2.2)) = (Except.ok url : Except UrlError Url) →
      HasPathOf url (cut rest).1 := by
    intro host hread
    split at hread
    · cases hread
      exact ⟨rfl, [], _, rfl, rfl⟩
    · cases hread
      exact ⟨rfl, [], _, rfl, hinner⟩
  split at hread
  · exact hhost (.domain []) hread
  · cases hparse : Host.parse (s.takeWhile (!endsAuthority true ·)) with
    | error why =>
      rw [hparse] at hread
      cases hread
    | ok host =>
      rw [hparse] at hread
      exact hhost host hread

/-- A reference with one slash. -/
theorem hasPathOf_readRootedFile (base : Option Url) (t : Text) :
    HasPathOf (readRootedFile base t) (cut t).1 :=
  ⟨rfl, _, _, rfl, rfl⟩

/-- What follows the host is all there is without two slashes. -/
theorem afterHost_of_not {c : Char} {r : Text}
    (h : isSlash c = false ∨ ∀ d s, r = d :: s → isSlash d = false) :
    afterHost (c :: r) = c :: r := by
  unfold afterHost
  split
  · next c' d s heq =>
    obtain ⟨rfl, rfl⟩ := List.cons_eq_cons.mp heq
    refine if_neg ?_
    rw [Bool.and_eq_true]
    rintro ⟨hc, hd⟩
    rcases h with h | h
    · rw [h] at hc
      cases hc
    · rw [h d s rfl] at hd
      cases hd
  · rfl

/-- A reference that begins with a slash. -/
theorem hasPathOf_readFile_of_slash {base : Option Url} {c : Char} {r : Text} {url : Url}
    (hc : isSlash c = true) (hread : readFile base (c :: r) = .ok url) :
    HasPathOf url (cut (afterHost (c :: r))).1 := by
  have hrooted : ∀ {r : Text}, (∀ d s, r = d :: s → isSlash d = false) →
      HasPathOf (readRootedFile base r) (cut (afterHost (c :: r))).1 := by
    intro r hr
    rw [afterHost_of_not (Or.inr hr), fst_cut_of_isSlash hc]
    exact (hasPathOf_readRootedFile base r).congr (classify_decode_cons hc _).symm
  have hslash : ∀ {d : Char}, (decide (d = '/') || decide (d = '\\')) = isSlash d := fun {d} => rfl
  unfold readFile at hread
  dsimp only at hread
  rw [hslash, if_pos hc] at hread
  cases r with
  | nil =>
    cases hread
    exact hrooted (fun d s h => nomatch h)
  | cons d s =>
    dsimp only at hread
    rw [hslash] at hread
    by_cases hd : isSlash d = true
    · rw [if_pos hd] at hread
      exact hasPathOf_readFileHost hread hc hd
    · rw [if_neg hd] at hread
      cases hread
      refine hrooted (fun d' s' h => ?_)
      obtain ⟨rfl, -⟩ := List.cons_eq_cons.mp h
      exact Bool.eq_false_of_not_eq_true hd

/-- **A reference to a file** keeps the path of the base, or has the path that
is written. -/
theorem readFile_cases {base : Option Url} (hbase : ∀ b, base = some b → IsFileUrl b) {t : Text}
    {url : Url} (hread : readFile base t = .ok url) :
    (∃ b, base = some b ∧ (cut t).1 = [] ∧ url.toFilePath? = b.toFilePath?)
      ∨ ((base = none ∨ (cut t).1 ≠ []) ∧ HasPathOf url (cut (afterHost t)).1) := by
  cases t with
  | nil =>
    cases base with
    | none =>
      cases hread
      exact Or.inr ⟨Or.inl rfl, rfl, [], [], rfl, rfl⟩
    | some b =>
      cases hread
      exact Or.inl ⟨b, rfl, rfl, rfl⟩
  | cons c r =>
    by_cases hc : isSlash c = true
    · refine Or.inr ⟨Or.inr ?_, hasPathOf_readFile_of_slash hc hread⟩
      rw [fst_cut_of_isSlash hc]
      exact List.cons_ne_nil _ _
    have hslash : (decide (c = '/') || decide (c = '\\')) = isSlash c := rfl
    rw [afterHost_of_not (Or.inl (Bool.eq_false_of_not_eq_true hc))]
    unfold readFile at hread
    dsimp only at hread
    rw [hslash, if_neg hc] at hread
    cases base with
    | none =>
      cases hread
      exact Or.inr ⟨Or.inl rfl, rfl, [], _, rfl, rfl⟩
    | some b =>
      dsimp only at hread
      by_cases hpath : (cut (c :: r)).1 = []
      · rw [if_pos hpath] at hread
        refine Or.inl ⟨b, rfl, hpath, ?_⟩
        split at hread <;> cases hread <;> rfl
      · rw [if_neg hpath] at hread
        refine Or.inr ⟨Or.inr hpath, ?_⟩
        split at hread
        · cases hread
          exact ⟨rfl, [], _, rfl, rfl⟩
        · cases hread
          exact ⟨(hbase b rfl).scheme_eq, _, _, rfl, rfl⟩

/-! ## References and URLs -/

/-- What is read after a scheme has the scheme. -/
theorem scheme_of_readAfterSlashes {scheme t : Text} {url : Url}
    (h : readAfterSlashes scheme t = .ok url) : url.scheme = scheme := by
  unfold readAfterSlashes at h
  dsimp only at h
  cases hauthority : readAuthority scheme (t.takeWhile (!endsAuthority (isSpecial scheme) ·)) with
  | error why =>
    rw [hauthority] at h
    cases h
  | ok authority =>
    rw [hauthority] at h
    cases h
    rfl

theorem scheme_of_readOpaqueOrRooted {scheme t : Text} {url : Url}
    (h : readOpaqueOrRooted scheme t = .ok url) : url.scheme = scheme := by
  unfold readOpaqueOrRooted at h
  split at h
  · exact scheme_of_readAfterSlashes h
  · dsimp only at h
    split at h <;> cases h <;> rfl

/-- Only the scheme of files leads to URLs of files. -/
theorem readFile_of_readWithScheme {base : Option Url}
    (hbase : ∀ b, base = some b → IsFileUrl b) {scheme rest : Text} {url : Url}
    (hread : readWithScheme base scheme rest = .ok url) (hurl : url.scheme = "file".toList) :
    readFile base rest = .ok url := by
  -- The base is a file too, so it is kept for the scheme of files and dropped for others.
  have hkept : base.filter (fun b => b.scheme == scheme)
      = if isFileScheme scheme = true then base else none := by
    cases base with
    | none => split_ifs <;> rfl
    | some b =>
      have hscheme : (b.scheme == scheme) = isFileScheme scheme := by
        rw [(hbase b rfl).scheme_eq, isFileScheme, Bool.beq_comm]
      rw [Option.filter_some, hscheme]
  unfold readWithScheme at hread
  dsimp only at hread
  rw [hkept] at hread
  by_cases hfile : isFileScheme scheme = true
  · rw [if_pos hfile, if_pos hfile] at hread
    exact hread
  rw [if_neg hfile, if_neg hfile] at hread
  have hscheme : url.scheme = scheme := by
    by_cases hspecial : isSpecial scheme = true
    · rw [if_pos hspecial] at hread
      exact scheme_of_readAfterSlashes hread
    · rw [if_neg hspecial] at hread
      exact scheme_of_readOpaqueOrRooted hread
  exact absurd (beq_iff_eq.mpr (hscheme.symm.trans hurl)) hfile

/-- An absolute URL of a file has the path that is written. -/
theorem hasPathOf_of_parse {t : Text} {url : Url} (h : parse t = .ok url)
    (hurl : url.scheme = "file".toList) : HasPathOf url (writtenPath t) := by
  unfold parse read at h
  dsimp only at h
  cases hsplit : splitScheme? (clean t) with
  | none =>
    rw [hsplit] at h
    cases h
  | some split =>
    rw [hsplit] at h
    have hbase : ∀ b, (none : Option Url) = some b → IsFileUrl b := fun b hb => by cases hb
    have hread : readFile none split.2 = .ok url := readFile_of_readWithScheme hbase h hurl
    have hafter : afterScheme (clean t) = split.2 := by
      rw [afterScheme, hsplit]
    rw [writtenPath, hafter]
    rcases readFile_cases hbase hread with ⟨b, hb, -⟩ | ⟨-, hpath⟩
    · cases hb
    · exact hpath

/-- **The class of the path of an absolute URL** is that of what is written. -/
theorem classify_parse {t : Text} {url : Url} {p : Path} (h : parse t = .ok url)
    (hurl : url.scheme = "file".toList) (hp : url.toFilePath? = some p) :
    classify p = classify (Percent.decode (writtenPath t)) :=
  (hasPathOf_of_parse h hurl).classify_eq hp

/-- What has no scheme is a reference to a file, or only a fragment of the
base. -/
theorem readFile_of_readWithoutScheme {base : Url} (hbase : IsFileUrl base) {t : Text} {url : Url}
    (h : readWithoutScheme (some base) t = .ok url) :
    readFile (some base) t = .ok url ∨ ((cut t).1 = [] ∧ url.toFilePath? = base.toFilePath?) := by
  obtain ⟨hscheme, s, l, hpath⟩ := hbase
  have hfile : isFileScheme base.scheme = true := beq_iff_eq.mpr hscheme
  unfold readWithoutScheme at h
  dsimp only at h
  split at h
  · cases h
    exact Or.inr ⟨by rw [fst_cut]; rfl, rfl⟩
  · next heq => cases hpath.symm.trans heq
  · next heq => cases hpath.symm.trans heq
  · rw [if_pos hfile] at h
    exact Or.inl h

/-- **The class of the path of a reference** is that of the path it names. -/
theorem classify_join {base : Url} (hbase : IsFileUrl base) {t : Text} {url : Url} {p : Path}
    (h : base.join t = .ok url) (hurl : url.scheme = "file".toList)
    (hp : url.toFilePath? = some p) : classify p = classify (namedPath base t) := by
  have hsome : ∀ b, some base = some b → IsFileUrl b := fun b hb => Option.some_inj.mp hb ▸ hbase
  -- Reading a reference to a file is all that is left of reading a reference.
  have hfile : readFile (some base) (afterScheme (clean t)) = .ok url
      ∨ ((cut (afterScheme (clean t))).1 = [] ∧ url.toFilePath? = base.toFilePath?) := by
    unfold join read at h
    dsimp only at h
    unfold afterScheme
    cases hsplit : splitScheme? (clean t) with
    | some split =>
      rw [hsplit] at h
      exact Or.inl (readFile_of_readWithScheme hsome h hurl)
    | none =>
      rw [hsplit] at h
      exact readFile_of_readWithoutScheme hbase h
  have hown : (cut (afterScheme (clean t))).1 = [] → url.toFilePath? = base.toFilePath? →
      classify p = classify (namedPath base t) := by
    intro hempty hown
    rw [namedPath, if_pos hempty, ← hown, hp]
    rfl
  rcases hfile with hread | ⟨hempty, hsame⟩
  · rcases readFile_cases hsome hread with ⟨b, hb, hempty, hsame⟩ | ⟨hempty, hpath⟩
    · cases hb
      exact hown hempty hsame
    · rw [namedPath, if_neg (hempty.resolve_left (Option.some_ne_none base)),
        hpath.classify_eq hp, writtenPath]
  · exact hown hempty hsame

/-! ## References that show their path -/

/-- **A reference that shows its path**: none of its characters has a meaning of
its own, and in front of the path there is nothing but `file://`. -/
structure IsClear (t : Text) : Prop where
  /-- All of it counts. -/
  clean_eq : clean t = t
  /-- No query and no fragment, and nothing is encoded. -/
  noMark : '?' ∉ t ∧ '#' ∉ t ∧ '%' ∉ t
  /-- No other scheme and no host. -/
  noHost : (ColonsBehindSlash t ∧ afterHost t = t) ∨ ∃ r, t = "file:///".toList ++ r

/-- What is written in a clear reference. -/
theorem exists_of_isClear {t : Text} (h : IsClear t) :
    writtenPath t = t ∧ (cut (afterScheme (clean t))).1 = t
      ∨ ∃ r, t = "file:///".toList ++ r ∧ writtenPath t = '/' :: r
        ∧ (cut (afterScheme (clean t))).1 ≠ [] := by
  obtain ⟨hclean, ⟨hquestion, hmark, -⟩, ⟨hcolons, hhost⟩ | ⟨r, rfl⟩⟩ := h
  · have hscheme : afterScheme t = t := by
      rw [afterScheme, splitScheme?_of_colonsBehindSlash hcolons]
    refine Or.inl ⟨?_, ?_⟩
    · rw [writtenPath, hclean, hscheme, hhost, cut_of_notMem hmark hquestion]
    · rw [hclean, hscheme, cut_of_notMem hmark hquestion]
  · have hscheme : afterScheme ("file:///".toList ++ r) = '/' :: '/' :: '/' :: r := rfl
    have hhost : afterHost ('/' :: '/' :: '/' :: r) = '/' :: r := rfl
    have hcut : cut ('/' :: r) = ('/' :: r, none, none) :=
      cut_of_notMem (fun h => hmark (List.mem_append_right "file://".toList h))
        (fun h => hquestion (List.mem_append_right "file://".toList h))
    refine Or.inr ⟨r, rfl, ?_, ?_⟩
    · rw [writtenPath, hclean, hscheme, hhost, hcut]
    · rw [hclean, hscheme, fst_cut_of_isSlash rfl]
      exact List.cons_ne_nil _ _

/-- **A clear reference has the class of what is written in it.** -/
theorem classify_writtenPath {t : Text} (h : IsClear t) :
    classify (Percent.decode (writtenPath t)) = classify t := by
  rcases exists_of_isClear h with ⟨hwritten, -⟩ | ⟨r, hr, hwritten, -⟩
  · rw [hwritten, Percent.decode_eq_self h.noMark.2.2]
  · have hpercent : '%' ∉ '/' :: r := fun hmem =>
      h.noMark.2.2 (hr ▸ List.mem_append_right "file://".toList hmem)
    have hclass : classify ("file://".toList ++ '/' :: r) = classify r :=
      classify_append_cons rfl _ r
    rw [hwritten, Percent.decode_eq_self hpercent, Specifier.classify_cons rfl, hr, ← hclass]
    rfl

/-- **A clear reference has the class of the path it names.** -/
theorem classify_namedPath {base : Url} {t : Text} (h : IsClear t) (hne : t ≠ []) :
    classify (namedPath base t) = classify t := by
  have hpath : (cut (afterScheme (clean t))).1 ≠ [] := by
    rcases exists_of_isClear h with ⟨-, hcut⟩ | ⟨r, -, -, hcut⟩
    · rw [hcut]
      exact hne
    · exact hcut
  rw [namedPath, if_neg hpath, classify_writtenPath h]

end ModuleHooks.Url
