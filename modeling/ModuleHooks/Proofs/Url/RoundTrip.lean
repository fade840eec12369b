import ModuleHooks.Proofs.Url.FileForm
/-!
# Reading the text of a URL

The text of the URL of a file, read as a URL, gives the URL back, except that the reader walks
along its segments once more (`parse_render`). In the form that such a URL has there is nothing
left to encode, to trim or to cut off, so the walk is all that can make a difference, and it
makes one where a segment leads up and nowhere else (`walked_eq_self_iff`). Not even drive letters
are an exception: the walk begins with the empty segment in front of the first slash, and a
drive letter after it is a segment like any other.
-/

namespace ModuleHooks.Url

/-! ## The text -/

/-- The text of the path of a file consists of slashes and what the segments hold. -/
theorem forall_mem_renderPath {l : List Text} (hl : IsFilePath l) {c : Char}
    (hc : c ∈ renderPath (.segments l)) : c = '/' ∨ segmentSet c = false := by
  obtain ⟨s, hs, hmem⟩ := List.mem_flatMap.mp hc
  rcases List.mem_cons.mp hmem with hslash | hmem
  · exact Or.inl hslash
  · exact Or.inr ((hl.isFileSegment s hs).encoded c hmem)

/-- The pieces that the text of a path is written in: nothing in front of the first slash, and
the segments. -/
theorem writtenSegments_renderPath {l : List Text} (hl : IsFilePath l) :
    writtenSegments true (renderPath (.segments l)) = [] :: l := by
  have hrender : renderPath (.segments l) = '/' :: Text.join "/" l :=
    (Text.cons_join '/' hl.ne_nil).symm
  have hfront : writtenSegments true ('/' :: Text.join "/" l)
      = [] :: writtenSegments true (Text.join "/" l) := rfl
  rw [hrender, hfront,
    writtenSegments_join hl.ne_nil fun s hs => (hl.isFileSegment s hs).encoded]

/-- What is written behind a mark begins at the mark. -/
theorem splitFirst?_append_marked {mark : Char} {front : Text} (h : mark ∉ front)
    (part : Option Text) :
    Text.splitFirst? [mark] (front ++ marked mark part) = part.map fun t => (front, t) := by
  cases part with
  | none =>
    rw [marked, List.append_nil]
    exact Text.splitFirst?_of_notMem h
  | some t => exact Text.splitFirst?_append_cons h t

/-- **A text is cut where its parts were put together**, if the marks stand nowhere else in
front. -/
theorem cut_append_marked {path : Text} {query : Option Text} (hmark : '#' ∉ path)
    (hquestion : '?' ∉ path) (hquery : '#' ∉ marked '?' query) (fragment : Option Text) :
    cut (path ++ marked '?' query ++ marked '#' fragment) = (path, query, fragment) := by
  have hfront : '#' ∉ path ++ marked '?' query :=
    fun hmem => (List.mem_append.mp hmem).elim hmark hquery
  have hfragment : Text.splitFirst? "#" (path ++ marked '?' query ++ marked '#' fragment)
      = fragment.map fun t => (path ++ marked '?' query, t) :=
    splitFirst?_append_marked hfront fragment
  have hsplit : Text.splitFirst? "?" (path ++ marked '?' query) = query.map fun t => (path, t) :=
    splitFirst?_append_marked hquestion query
  have hnone : ∀ (t : Text) (mark : Char), t ++ marked mark none = t := fun t _ =>
    List.append_nil t
  unfold cut
  rw [hfragment]
  cases fragment with
  | none =>
    rw [hnone]
    simp only [Option.map_none, hsplit]
    cases query with
    | none => simp only [Option.map_none, hnone]
    | some q => rfl
  | some f =>
    simp only [Option.map_some, hsplit]
    cases query with
    | none => simp only [Option.map_none, hnone]
    | some q => rfl

/-- What is not encoded is no blank and no control character. -/
theorem lt_of_eq_false {set : Percent.EncodeSet} (hset : ∀ n, n < 33 → set (Char.ofNat n) = true)
    {c : Char} (hc : set c = false) : 32 < c.toNat := by
  by_contra hle
  have hmem := hset c.toNat (by omega)
  rw [Char.ofNat_toNat, hc] at hmem
  cases hmem

/-- The text behind a mark is that of its part. -/
theorem forall_mem_marked {P : Char → Prop} {mark : Char} (hmark : P mark) {part : Option Text}
    (h : ∀ t, part = some t → ∀ c ∈ t, P c) : ∀ c ∈ marked mark part, P c := by
  cases part with
  | none => exact fun c hc => absurd hc List.not_mem_nil
  | some t => exact List.forall_mem_cons.mpr ⟨hmark, h t rfl⟩

/-! ## Reading it -/

/-- What begins with a slash behind `file://` has no host. -/
theorem readFileHost_of_slash {t : Text} (h : t.head? = some '/') :
    readFileHost t = .ok (withTail (fileUrl (.domain []) (pathAfter "file" [] (cut t).1))
      (cut t).2.1 (cut t).2.2) := by
  obtain ⟨r, rfl⟩ := List.head?_eq_some_iff.mp h
  rfl

/-- **The URL of a file after a walk along its segments**, which begins with nothing in front of
the first slash. -/
def walked (url : Url) : Url :=
  { url with
    path := .segments (dropEmptyFront (normalSegments true [] ([] :: segmentList url))) }

/-- The text of the URL of a file behind the two slashes. -/
def localText (url : Url) : Text :=
  renderPath (.segments (segmentList url)) ++ marked '?' url.query ++ marked '#' url.fragment

section Form

variable {url : Url} (h : IsFileForm url)

include h

theorem head?_localText : (localText url).head? = some '/' := by
  obtain ⟨s, segments, hcons⟩ := List.exists_cons_of_ne_nil h.isFilePath.ne_nil
  rw [localText, hcons]
  rfl

/-- No blanks and no control characters are left in the text. -/
theorem lt_of_mem_localText : ∀ c ∈ localText url, 32 < c.toNat := by
  refine List.forall_mem_append.mpr ⟨List.forall_mem_append.mpr ⟨fun c hc => ?_, ?_⟩, ?_⟩
  · rcases forall_mem_renderPath h.isFilePath hc with rfl | hset
    · decide
    · exact lt_of_eq_false (by decide) hset
  · exact forall_mem_marked (by decide) fun q hq c hc =>
      lt_of_eq_false (by decide) (h.query q hq c hc)
  · exact forall_mem_marked (by decide) fun f hf c hc =>
      lt_of_eq_false (by decide) (h.fragment f hf c hc)

/-- The text is cut into the parts of the URL. -/
theorem cut_localText :
    cut (localText url)
      = (renderPath (.segments (segmentList url)), url.query, url.fragment) := by
  have hnotMem : ∀ {c : Char}, segmentSet c = true → c ≠ '/' →
      c ∉ renderPath (.segments (segmentList url)) := by
    intro c hset hslash hc
    have hfalse := (forall_mem_renderPath h.isFilePath hc).resolve_left hslash
    rw [hset] at hfalse
    cases hfalse
  have hquery : ∀ c ∈ marked '?' url.query, c ≠ '#' :=
    forall_mem_marked (by decide) fun q hq c hc heq =>
      absurd (h.query q hq c hc) (by rw [heq]; decide)
  exact cut_append_marked (hnotMem (by decide) (by decide)) (hnotMem (by decide) (by decide))
    (fun hmem => hquery '#' hmem rfl) url.fragment

variable (hhost : url.authority = some { host := .domain [] })

include hhost

/-- The text of the URL of a file without a host. -/
theorem render_eq : url.render = "file://".toList ++ localText url := by
  obtain ⟨l, hpath, -⟩ := h.exists_path
  rw [render, renderFront, hhost, h.scheme_eq, localText, segmentList, hpath]
  simp [renderAuthority, Host.render]

theorem parse_render_eq_readFileHost : parse url.render = readFileHost (localText url) := by
  have hclean : clean url.render = url.render := by
    have hfront : ∀ c ∈ "file://".toList, 32 < c.toNat := by simp
    rw [render_eq h hhost]
    exact clean_eq_self (List.forall_mem_append.mpr ⟨hfront, lt_of_mem_localText h⟩)
  obtain ⟨r, hr⟩ := List.head?_eq_some_iff.mp (head?_localText h)
  rw [parse, read, hclean, render_eq h hhost, hr]
  rfl

/-- **The text of the URL of a file is read as the URL**, after a walk along its segments. -/
theorem parse_render : parse url.render = .ok (walked url) := by
  have hpathAfter : pathAfter "file" [] (renderPath (.segments (segmentList url)))
      = dropEmptyFront (normalSegments true [] ([] :: segmentList url)) := by
    show dropEmptyFront (normalSegments true [] (writtenSegments true _)) = _
    rw [writtenSegments_renderPath h.isFilePath]
  have hquery : url.query.map (encodeQuery "file") = url.query :=
    (Option.map_congr fun q hq => Percent.encode_eq_self (h.query q hq)).trans Option.map_id_apply
  have hfragment : url.fragment.map encodeFragment = url.fragment :=
    (Option.map_congr fun f hf => Percent.encode_eq_self (h.fragment f hf)).trans
      Option.map_id_apply
  rw [parse_render_eq_readFileHost h hhost, readFileHost_of_slash (head?_localText h),
    cut_localText h, hpathAfter, withTail, fileUrl, hquery, hfragment, ← hhost, ← h.scheme_eq,
    walked]

end Form

/-! ## What comes back -/

/-- Segments that do not stand for directories are pushed one after the other. -/
theorem normalSegments_of_forall {stack segments : List Text} (hstack : stack ≠ [])
    (h : ∀ s ∈ segments, isAbove s = false ∧ isHere s = false) :
    normalSegments true stack segments = stack.reverse ++ segments := by
  -- A drive letter is put into normal form at the front only, and the stack is the front.
  have hpush : ∀ {stack : List Text} {s : Text}, stack ≠ [] → isAbove s = false →
      isHere s = false → pushSegment true stack s = s :: stack := by
    intro stack s hstack habove hhere
    rw [pushSegment, habove, hhere]
    simp [hstack]
  fun_induction normalSegments true stack segments with
  | case1 stack => rw [List.append_nil]
  | case2 stack s hdots =>
    obtain ⟨habove, hhere⟩ := h s List.mem_cons_self
    rw [habove, hhere] at hdots
    cases hdots
  | case3 stack s =>
    obtain ⟨habove, hhere⟩ := h s List.mem_cons_self
    rw [hpush hstack habove hhere, List.reverse_cons]
  | case4 stack s rest hrest ih =>
    obtain ⟨⟨habove, hhere⟩, hmore⟩ := List.forall_mem_cons.mp h
    rw [hpush hstack habove hhere] at ih ⊢
    rw [ih (List.cons_ne_nil s stack) hmore, List.reverse_cons, List.append_assoc,
      List.singleton_append]

/-- No way up is left after a walk. -/
theorem notMem_walked (url : Url) : ['.', '.'] ∉ (walked url).segmentList := fun hmem =>
  absurd (isAbove_of_mem_dropEmptyFront hmem) (by decide)

/-- **A walk along the segments of a file** changes the URL exactly if one of them leads up. -/
theorem walked_eq_self_iff {url : Url} (h : IsFileForm url) :
    walked url = url ↔ ['.', '.'] ∉ url.segmentList := by
  refine ⟨fun heq => heq ▸ notMem_walked url, fun hmem => ?_⟩
  obtain ⟨l, hpath, hl⟩ := h.exists_path
  have hlist : url.segmentList = l := by
    rw [segmentList, hpath]
  rw [hlist] at hmem
  have hsegments : ∀ s ∈ l, isAbove s = false ∧ isHere s = false := fun s hs =>
    ⟨Bool.eq_false_iff.mpr fun habove => hmem ((hl.isFileSegment s hs).eq_above habove ▸ hs),
      (hl.isFileSegment s hs).isHere_eq⟩
  have hpush : pushSegment true [] [] = [[]] := by decide
  have hdrop : dropEmptyFront ([] :: l) = l := by
    -- Only the empty segment in front is dropped, unless there is nothing else.
    obtain ⟨s, segments, rfl⟩ := List.exists_cons_of_ne_nil hl.ne_nil
    by_cases hs : s = []
    · rw [hl.eq_root (by rw [hs]; rfl)]
      rfl
    · have hkept : ([] :: s :: segments).dropWhile (· == ([] : Text)) = s :: segments := by
        rw [List.dropWhile_cons_of_pos (by rfl),
          List.dropWhile_cons_of_neg (by simpa using hs)]
      rw [dropEmptyFront, hkept]
  rw [walked, hlist, normalSegments_cons _ _ _ hl.ne_nil, hpush,
    normalSegments_of_forall (List.cons_ne_nil _ _) hsegments, List.reverse_singleton,
    List.singleton_append, hdrop, ← hpath]

end ModuleHooks.Url
