import ModuleHooks.Emission.Basic
import ModuleHooks.Json.Basic
import ModuleHooks.Proofs.Text.Quoted
import ModuleHooks.Proofs.Text.Pieces
/-!
# Emitted modules are read back

A module is emitted by writing values between lines that are always the same. The
values are arbitrary: a stylesheet may hold quotes and line ends, and also the very
lines that stand around it. That the module still says what was put into it is
a statement with two sides.

One side reads modules. `decode?` goes along the lines and reads what stands between
them with the reader of JSON that is used for manifests; it knows neither how values are
escaped nor where they end. It gives back every module that can be emitted
(`decode?_source`), and so no two of them have the same source.

The other side scans them. Outside of its literals a module says nothing that depends on
the texts it was made from (`code_source`), so no text can end its literal and go on as
a statement.
-/

namespace ModuleHooks.Text

/-- A text is taken off the front of a longer one. -/
theorem stripStart?_append (p t : Text) : stripStart? p (p ++ t) = some t := by
  induction p with
  | nil => exact stripStart?_nil t
  | cons c p ih =>
    rw [List.cons_append, stripStart?, if_pos rfl]
    exact ih

end ModuleHooks.Text

namespace ModuleHooks.Emission

open Text (quote stripStart? stripStart?_append code SameCode sameCode_quote sameCode_self)

/-- **An emitted module**, told by what was put into it. -/
inductive Emitted where
  /-- The module of an asset that exports its path. -/
  | asset (path : Text)
  /-- The module of a scoped stylesheet. -/
  | scopedSheet (css : Text) (classNames : ClassMap) (onCss : Option Text)
  /-- The module of a plain stylesheet. -/
  | plainSheet (path css : Text) (onCssImported : Option Text)
  deriving DecidableEq, Repr

namespace Emitted

/-- The source of an emitted module. -/
def source : Emitted → Text
  | asset path => assetModule .path path
  | scopedSheet css classNames onCss => scopedModule css classNames onCss
  | plainSheet path css onCssImported => plainModule path css onCssImported

/-- The same module made from empty texts: it has as many classes, and a callback if
there was one. -/
def blank : Emitted → Emitted
  | asset _ => asset []
  | scopedSheet _ classNames onCss =>
    scopedSheet [] (classNames.map fun _ => ([], [])) (onCss.map fun _ => [])
  | plainSheet _ _ onCssImported => plainSheet [] [] (onCssImported.map fun _ => [])

end Emitted

/-! ## The decoder -/

/-- What can be read at the front of a source. -/
abbrev Decoder := StateT Text Option

/-- Goes past a text that has to stand there. -/
def expect (p : Text) : Decoder Unit := fun t => (stripStart? p t).map fun t => ((), t)

/-- Reads a JSON value that is a text. -/
def text? : Decoder Text := fun t =>
  match Json.value? true 0 t with
  | some (.string s, r) => some (s, r)
  | _ => none

/-- The class map of an object, if all its members are texts. -/
def classMap? (members : List (Text × Json)) : Option ClassMap :=
  members.mapM fun m =>
    match m.2 with
    | .string s => some (m.1, s)
    | _ => none

/-- Reads a JSON value that is an object of texts. -/
def map? : Decoder ClassMap := fun t =>
  match Json.value? true 1 t with
  | some (.object members, r) => (classMap? members).map fun map => (map, r)
  | _ => none

/-- Reads the declaration of a constant. -/
def constant? {α : Type} (name : Text) (value : Decoder α) : Decoder α := do
  expect ("const ".toList ++ name ++ " = ".toList)
  let v ← value
  expect ";\n"
  return v

/-- Reads the declaration of a constant that looks a global up. -/
def globalLookup? (binding : Text) : Decoder Text :=
  constant? binding do
    expect "typeof globalThis !== \"undefined\" ? globalThis["
    let name ← text?
    expect "] : undefined"
    return name

/-- Reads the end of a module: the look-up of a callback and what goes with it, or what
stands there without one. -/
def ending? (binding present absent : Text) : Decoder (Option Text) :=
  (do let name ← globalLookup? binding
      expect present
      return some name) <|>
  (do expect absent
      return none)

/-- Reads the module of an asset. -/
def assetModule? : Decoder Emitted := do
  expect "const __PATH__ = "
  let path ← text?
  expect "; export default __PATH__;"
  return .asset path

/-- What a module ends with that exports its class map. -/
def scopedEnd : Text := injection ++ "\nexport default __TOKENS__;\n".toList

/-- Reads the module of a scoped stylesheet. -/
def scopedModule? : Decoder Emitted := do
  let css ← constant? "__CSS__" text?
  let classNames ← constant? "__TOKENS__" map?
  let onCss ← ending? "__ON_CSS__" (scopedCallback ++ scopedEnd) (['\n'] ++ scopedEnd)
  return .scopedSheet css classNames onCss

/-- What a module ends with that exports its path. -/
def plainEnd : Text := "\nexport default __PATH__;\n"

/-- Reads the module of a plain stylesheet. -/
def plainModule? : Decoder Emitted := do
  let path ← constant? "__PATH__" text?
  let css ← constant? "__CSS__" text?
  let onCssImported ← ending? "__ON_CSS_IMPORTED__" (plainCallback ++ plainEnd) plainEnd
  return .plainSheet path css onCssImported

/-- **What was put into a module**, read off its source. -/
def decode? (source : Text) : Option Emitted :=
  match (assetModule? <|> scopedModule? <|> plainModule?).run source with
  | some (m, []) => some m
  | _ => none

/-! ## What decoders read -/

section Reading

variable {α β : Type}

/-- **A decoder reads a value off what it is written as**, whatever stands behind it. -/
def Reads (d : Decoder α) (written : Text) (v : α) : Prop := ∀ r, d (written ++ r) = some (v, r)

/-- **A decoder refuses what is written**, whatever stands behind it. -/
def Refuses (d : Decoder α) (written : Text) : Prop := ∀ r, d (written ++ r) = none

variable {d e : Decoder α} {f : α → Decoder β} {s t : Text} {v : α} {w : β}

/-- One after the other is read one after the other. -/
theorem Reads.bind (hd : Reads d s v) (hf : Reads (f v) t w) : Reads (d >>= f) (s ++ t) w := by
  intro r
  show (d (s ++ t ++ r)).bind (fun x => f x.1 x.2) = some (w, r)
  rw [List.append_assoc, hd]
  exact hf r

theorem Reads.map (hd : Reads d s v) (g : α → β) : Reads (d >>= fun v => pure (g v)) s (g v) := by
  intro r
  show (d (s ++ r)).bind (fun x => some (g x.1, x.2)) = some (g v, r)
  rw [hd]
  rfl

/-- What is refused after something was read is refused with it. -/
theorem Reads.bind_refuses (hd : Reads d s v) (hf : Refuses (f v) t) :
    Refuses (d >>= f) (s ++ t) := by
  intro r
  show (d (s ++ t ++ r)).bind (fun x => f x.1 x.2) = none
  rw [List.append_assoc, hd]
  exact hf r

theorem Refuses.bind (hd : Refuses d s) (f : α → Decoder β) : Refuses (d >>= f) s := by
  intro r
  show (d (s ++ r)).bind (fun x => f x.1 x.2) = none
  rw [hd]
  rfl

/-- Only the front of what is written is needed to refuse it. -/
theorem Refuses.append (hd : Refuses d s) (t : Text) : Refuses d (s ++ t) := by
  intro r
  rw [List.append_assoc]
  exact hd (t ++ r)

/-- The first of two decoders has its way. -/
theorem Reads.orElse (hd : Reads d s v) (e : Decoder α) : Reads (d <|> e) s v := by
  intro r
  show (d (s ++ r)).orElse (fun _ => e (s ++ r)) = some (v, r)
  rw [hd]
  rfl

/-- The second of two decoders reads what the first refuses. -/
theorem Refuses.orElse (hd : Refuses d s) (he : Reads e s v) : Reads (d <|> e) s v := by
  intro r
  show (d (s ++ r)).orElse (fun _ => e (s ++ r)) = some (v, r)
  rw [hd]
  exact he r

end Reading

/-- A text that has to stand somewhere is read there. -/
theorem reads_expect (p : Text) : Reads (expect p) p () := by
  intro r
  rw [expect, stripStart?_append]
  rfl

/-! ## Reading literals -/

/-- **A quoted text is a JSON value.** -/
theorem value?_quote_append (t r : Text) :
    Json.value? true 0 (quote t ++ r) = some (.string t, r) := by
  have hread : Text.unquote? (quote t ++ r) = some (t, r) := Text.unquote?_quote_append t r
  show (Text.unquote? (quote t ++ r)).map _ = _
  rw [hread]
  rfl

theorem reads_text (t : Text) : Reads text? (quote t) t := by
  intro r
  rw [text?, value?_quote_append]

/-- The literal of one entry of a class map. -/
def entry (e : Text × Text) : Text := quote e.1 ++ ':' :: quote e.2

/-- A quoted text is the name of a member. -/
theorem literal?_quote_append (t r : Text) :
    Json.literal? true (Json.skipBlanks (quote t ++ r)) = some (t, r) :=
  Text.unquote?_quote_append t r

/-- Behind an entry and a comma there are the other members. -/
theorem members?_entry_comma (n : Nat) (e : Text × Text) (r : Text) :
    Json.members? true (fun _ => Json.value? true 0) (n + 1) (entry e ++ ',' :: r)
      = (Json.members? true (fun _ => Json.value? true 0) n r).map fun x =>
          ((e.1, .string e.2) :: x.1, x.2) := by
  have hentry : entry e ++ ',' :: r = quote e.1 ++ ':' :: (quote e.2 ++ ',' :: r) := by
    rw [entry, List.append_assoc, List.cons_append]
  rw [Json.members?, hentry, literal?_quote_append]
  show (Json.value? true 0 (quote e.2 ++ ',' :: r)).bind _ = _
  rw [value?_quote_append]
  rfl

/-- An entry and a brace are all of an object that is left. -/
theorem members?_entry_close (n : Nat) (e : Text × Text) (r : Text) :
    Json.members? true (fun _ => Json.value? true 0) (n + 1) (entry e ++ '\x7d' :: r)
      = some ([(e.1, .string e.2)], r) := by
  have hentry : entry e ++ '\x7d' :: r = quote e.1 ++ ':' :: (quote e.2 ++ '\x7d' :: r) := by
    rw [entry, List.append_assoc, List.cons_append]
  rw [Json.members?, hentry, literal?_quote_append]
  show (Json.value? true 0 (quote e.2 ++ '\x7d' :: r)).bind _ = _
  rw [value?_quote_append]
  rfl

/-- **The entries of a class map are members of an object.** -/
theorem members?_join_entry {map : ClassMap} (hne : map ≠ []) {n : Nat} (hn : map.length ≤ n)
    (r : Text) :
    Json.members? true (fun _ => Json.value? true 0) n
        (Text.join "," (map.map entry) ++ '\x7d' :: r)
      = some (map.map fun e => (e.1, .string e.2), r) := by
  induction map generalizing n with
  | nil => exact absurd rfl hne
  | cons e map ih =>
    -- The bound is on the number of members, and each entry is one.
    obtain ⟨n, rfl⟩ : ∃ k, n = k + 1 := ⟨n - 1, by rw [List.length_cons] at hn; omega⟩
    cases map with
    | nil =>
      show Json.members? true _ (n + 1) (Text.join "," [entry e] ++ '\x7d' :: r) = _
      rw [Text.join_singleton, members?_entry_close]
      rfl
    | cons f map =>
      have hjoin : Text.join "," ((e :: f :: map).map entry) ++ '\x7d' :: r
          = entry e ++ ',' :: (Text.join "," ((f :: map).map entry) ++ '\x7d' :: r) := by
        rw [List.map_cons, Text.join_cons _ (by simp)]
        show entry e ++ [','] ++ _ ++ _ = _
        simp only [List.append_assoc, List.cons_append, List.nil_append]
      have hrest := ih (List.cons_ne_nil f map) (n := n) (by simpa using hn)
      rw [hjoin, members?_entry_comma, hrest]
      rfl

/-- Each entry takes a place in the text of all. -/
theorem length_le_length_join_entry (map : ClassMap) :
    map.length ≤ (Text.join "," (map.map entry)).length := by
  induction map with
  | nil => exact Nat.zero_le _
  | cons e map ih =>
    have hentry : 1 ≤ (entry e).length := by
      rw [entry, List.length_append, List.length_cons]
      omega
    cases map with
    | nil => simpa using hentry
    | cons f map =>
      rw [List.map_cons, Text.join_cons _ (by simp), List.length_append, List.length_append,
        List.length_cons]
      omega

/-- **The literal of a class map is a JSON value.** -/
theorem value?_mapLiteral_append (map : ClassMap) (r : Text) :
    Json.value? true 1 (mapLiteral map ++ r)
      = some (.object (map.map fun e => (e.1, .string e.2)), r) := by
  by_cases hne : map = []
  · rw [hne]
    rfl
  · -- The first name begins with a quote, so this is not the object without members.
    obtain ⟨body, hbody⟩ :
        ∃ body, Text.join "," (map.map entry) ++ '\x7d' :: r = '"' :: body := by
      obtain ⟨e, rest, rfl⟩ := List.exists_cons_of_ne_nil hne
      cases rest with
      | nil => exact ⟨_, by rw [List.map_singleton, Text.join_singleton]; rfl⟩
      | cons f rest => exact ⟨_, by rw [List.map_cons, Text.join_cons _ (by simp)]; rfl⟩
    -- The reader takes its bound from the length of the text.
    have hlength : map.length ≤ ('"' :: body).length := by
      rw [← hbody, List.length_append]
      exact (length_le_length_join_entry map).trans (Nat.le_add_right _ _)
    have hliteral : mapLiteral map ++ r = '\x7b' :: '"' :: body := by
      rw [← hbody, mapLiteral, List.cons_append, List.cons_append, List.append_assoc]
      rfl
    have hmembers := members?_join_entry hne hlength r
    rw [hbody] at hmembers
    rw [hliteral]
    show (Json.members? true (fun _ => Json.value? true 0) _ _).map _ = _
    rw [hmembers]
    rfl

/-- All members of the literal of a class map are texts. -/
theorem classMap?_map (map : ClassMap) :
    classMap? (map.map fun e => (e.1, .string e.2)) = some map := by
  induction map with
  | nil => rfl
  | cons e map ih =>
    rw [classMap?] at ih ⊢
    rw [List.map_cons, List.mapM_cons, ih]
    rfl

theorem reads_map (map : ClassMap) : Reads map? (mapLiteral map) map := by
  intro r
  rw [map?, value?_mapLiteral_append]
  show (classMap? _).map _ = _
  rw [classMap?_map]
  rfl

/-! ## Reading lines -/

/-- **A declaration is read** if its value is. -/
theorem Reads.constant {α : Type} {value : Decoder α} {literal : Text} {v : α}
    (h : Reads value literal v) (name : Text) :
    Reads (constant? name value) (constant name literal) v := by
  unfold Emission.constant
  rw [List.append_assoc]
  exact (reads_expect _).bind (h.bind ((reads_expect _).map fun _ => v))

/-- **A look-up is read**: the name of the global is a literal too. -/
theorem reads_globalLookup (binding name : Text) :
    Reads (globalLookup? binding) (globalLookup binding name) name := by
  refine Reads.constant ?_ binding
  rw [List.append_assoc]
  exact (reads_expect _).bind ((reads_text name).bind ((reads_expect _).map fun _ => name))

/-- The end of a module with a callback is read. -/
theorem reads_ending_present (binding present absent name : Text) :
    Reads (ending? binding present absent) (globalLookup binding name ++ present)
      (some name) :=
  ((reads_globalLookup binding name).bind ((reads_expect present).map fun _ => some name)).orElse _

/-- The end of a module without a callback is read, as it begins with the end of a line
and not with a declaration. -/
theorem reads_ending_absent (binding present : Text) {absent rest : Text}
    (h : absent = '\n' :: rest) : Reads (ending? binding present absent) absent none := by
  have hexpect : Refuses (expect ("const ".toList ++ binding ++ " = ".toList)) absent := by
    rw [h]
    exact fun _ => rfl
  -- The look-up is refused as a whole because its first word is.
  have hlookup : Refuses (globalLookup? binding) absent := hexpect.bind _
  exact (hlookup.bind _).orElse ((reads_expect _).map fun _ => none)

/-- A declaration is refused by its name. -/
theorem refuses_constant {p name : Text}
    (h : Refuses (expect p) ("const ".toList ++ name ++ " = ".toList)) (literal : Text) :
    Refuses (expect p) (constant name literal) := by
  unfold constant
  exact (h.append literal).append _

/-! ## Reading modules -/

/-- The module of a scoped stylesheet, its lines one after the other. -/
theorem scopedModule_eq (css : Text) (classNames : ClassMap) (onCss : Option Text) :
    scopedModule css classNames onCss
      = constant "__CSS__" (quote css) ++ (constant "__TOKENS__" (mapLiteral classNames) ++
        match onCss with
        | some name => globalLookup "__ON_CSS__" name ++ (scopedCallback ++ scopedEnd)
        | none => ['\n'] ++ scopedEnd) := by
  unfold scopedModule scopedEnd
  cases onCss with
  | none => simp only [List.append_assoc]
  | some name => simp only [List.append_assoc]

/-- The module of a plain stylesheet, its lines one after the other. -/
theorem plainModule_eq (path css : Text) (onCssImported : Option Text) :
    plainModule path css onCssImported
      = constant "__PATH__" (quote path) ++ (constant "__CSS__" (quote css) ++
        match onCssImported with
        | some name => globalLookup "__ON_CSS_IMPORTED__" name ++ (plainCallback ++ plainEnd)
        | none => plainEnd) := by
  unfold plainModule plainEnd
  cases onCssImported with
  | none => simp only [List.append_assoc, List.nil_append]
  | some name => simp only [List.append_assoc]

theorem reads_assetModule (path : Text) :
    Reads assetModule? (assetModule .path path) (.asset path) := by
  unfold assetModule
  rw [List.append_assoc]
  exact (reads_expect _).bind
    ((reads_text path).bind ((reads_expect _).map fun _ => Emitted.asset path))

theorem reads_scopedModule (css : Text) (classNames : ClassMap) (onCss : Option Text) :
    Reads scopedModule? (scopedModule css classNames onCss)
      (.scopedSheet css classNames onCss) := by
  rw [scopedModule_eq]
  refine ((reads_text css).constant _).bind (((reads_map classNames).constant _).bind ?_)
  cases onCss with
  | none => exact (reads_ending_absent _ _ List.singleton_append).map _
  | some name => exact (reads_ending_present _ _ _ name).map _

theorem reads_plainModule (path css : Text) (onCssImported : Option Text) :
    Reads plainModule? (plainModule path css onCssImported)
      (.plainSheet path css onCssImported) := by
  rw [plainModule_eq]
  refine ((reads_text path).constant _).bind (((reads_text css).constant _).bind ?_)
  cases onCssImported with
  | none =>
    have hline : plainEnd = '\n' :: "export default __PATH__;\n".toList := rfl
    exact (reads_ending_absent _ _ hline).map _
  | some name => exact (reads_ending_present _ _ _ name).map _

/-- The module of a scoped stylesheet is not the module of an asset: it declares something
else first. -/
theorem assetModule?_refuses_scopedModule (css : Text) (classNames : ClassMap)
    (onCss : Option Text) : Refuses assetModule? (scopedModule css classNames onCss) := by
  have hname : Refuses (expect "const __PATH__ = ")
      ("const ".toList ++ "__CSS__".toList ++ " = ".toList) := fun _ => rfl
  rw [scopedModule_eq]
  exact ((refuses_constant hname _).append _).bind _

/-- The module of a plain stylesheet is not the module of an asset: the line of its path
ends there. -/
theorem assetModule?_refuses_plainModule (path css : Text) (onCssImported : Option Text) :
    Refuses assetModule? (plainModule path css onCssImported) := by
  have hend : Refuses (expect "; export default __PATH__;") ";\n" := fun _ => rfl
  rw [plainModule_eq]
  refine Refuses.append ?_ _
  unfold constant
  rw [List.append_assoc]
  exact (reads_expect _).bind_refuses ((reads_text path).bind_refuses (hend.bind _))

/-- The module of a plain stylesheet is not that of a scoped one either. -/
theorem scopedModule?_refuses_plainModule (path css : Text) (onCssImported : Option Text) :
    Refuses scopedModule? (plainModule path css onCssImported) := by
  have hname : Refuses (expect ("const ".toList ++ "__CSS__".toList ++ " = ".toList))
      ("const ".toList ++ "__PATH__".toList ++ " = ".toList) := fun _ => rfl
  rw [plainModule_eq]
  exact (((refuses_constant hname _).append _).bind _).bind _

/-- **One decoder reads every module.** -/
theorem reads_source (m : Emitted) :
    Reads (assetModule? <|> scopedModule? <|> plainModule?) m.source m := by
  cases m with
  | asset path => exact (reads_assetModule path).orElse _
  | scopedSheet css classNames onCss =>
    exact (assetModule?_refuses_scopedModule css classNames onCss).orElse
      ((reads_scopedModule css classNames onCss).orElse _)
  | plainSheet path css onCssImported =>
    exact (assetModule?_refuses_plainModule path css onCssImported).orElse
      ((scopedModule?_refuses_plainModule path css onCssImported).orElse
        (reads_plainModule path css onCssImported))

/-- **Every module that can be emitted is read back.** -/
theorem decode?_source (m : Emitted) : decode? m.source = some m := by
  have hread := reads_source m []
  rw [List.append_nil] at hread
  rw [decode?, StateT.run, hread]

/-! ## The code of a module -/

theorem sameCode_entry (e f : Text × Text) : SameCode (entry e) (entry f) := by
  have hcolon : SameCode [':'] [':'] := sameCode_self fun _ => rfl
  exact (sameCode_quote e.1 f.1).append (hcolon.append (sameCode_quote e.2 f.2))

/-- **The literals of class maps are alike** if there are as many classes. -/
theorem sameCode_mapLiteral {map other : ClassMap} (h : map.length = other.length) :
    SameCode (mapLiteral map) (mapLiteral other) := by
  have hopen : SameCode ['\x7b'] ['\x7b'] := sameCode_self fun _ => rfl
  have hcomma : SameCode ",".toList ",".toList := sameCode_self fun _ => rfl
  have hclose : SameCode ['\x7d'] ['\x7d'] := sameCode_self fun _ => rfl
  have hentries : List.Forall₂ SameCode (map.map entry) (other.map entry) := by
    rw [List.forall₂_map_left_iff, List.forall₂_map_right_iff]
    exact List.forall₂_iff_zip.mpr ⟨h, fun _ => sameCode_entry _ _⟩
  exact (hopen.append (hcomma.join hentries)).append hclose

/-- Declarations of the same constant are alike if the values are. -/
theorem sameCode_constant {name literal other : Text} (hname : SameCode name name)
    (h : SameCode literal other) : SameCode (constant name literal) (constant name other) := by
  have hconst : SameCode "const ".toList "const ".toList := sameCode_self fun _ => rfl
  have hequals : SameCode " = ".toList " = ".toList := sameCode_self fun _ => rfl
  have hend : SameCode ";\n".toList ";\n".toList := sameCode_self fun _ => rfl
  unfold constant
  exact (((hconst.append hname).append hequals).append h).append hend

theorem sameCode_globalLookup {binding : Text} (hbinding : SameCode binding binding)
    (name other : Text) : SameCode (globalLookup binding name) (globalLookup binding other) := by
  have hfront : SameCode "typeof globalThis !== \"undefined\" ? globalThis[".toList
      "typeof globalThis !== \"undefined\" ? globalThis[".toList := sameCode_self fun _ => rfl
  have hend : SameCode "] : undefined".toList "] : undefined".toList := sameCode_self fun _ => rfl
  refine sameCode_constant hbinding ?_
  exact (hfront.append (sameCode_quote name other)).append hend

/-- **The code of a module is that of the module of empty texts**, whatever its texts are:
what stands outside of its literals was there before they were put in. -/
theorem code_source (m : Emitted) : code m.source = code m.blank.source := by
  cases m with
  | asset path =>
    have hfront : SameCode "const __PATH__ = ".toList "const __PATH__ = ".toList :=
      sameCode_self fun _ => rfl
    show code (assetModule .path path) = code (assetModule .path [])
    unfold assetModule
    exact (hfront.append (sameCode_quote path [])) _ _ rfl
  | scopedSheet css classNames onCss =>
    have hcss : SameCode "__CSS__".toList "__CSS__".toList := sameCode_self fun _ => rfl
    have htokens : SameCode "__TOKENS__".toList "__TOKENS__".toList := sameCode_self fun _ => rfl
    have honCss : SameCode "__ON_CSS__".toList "__ON_CSS__".toList := sameCode_self fun _ => rfl
    have hmap : SameCode (mapLiteral classNames) (mapLiteral (classNames.map fun _ => ([], []))) :=
      sameCode_mapLiteral (List.length_map _).symm
    show code (scopedModule css classNames onCss) = code (scopedModule [] _ _)
    rw [scopedModule_eq, scopedModule_eq]
    refine sameCode_constant hcss (sameCode_quote css []) _ _ ?_
    refine sameCode_constant htokens hmap _ _ ?_
    -- Behind the last literal the two sources are the same text.
    cases onCss with
    | none => rfl
    | some name => exact sameCode_globalLookup honCss name [] _ _ rfl
  | plainSheet path css onCssImported =>
    have hpath : SameCode "__PATH__".toList "__PATH__".toList := sameCode_self fun _ => rfl
    have hcss : SameCode "__CSS__".toList "__CSS__".toList := sameCode_self fun _ => rfl
    have honCss : SameCode "__ON_CSS_IMPORTED__".toList "__ON_CSS_IMPORTED__".toList :=
      sameCode_self fun _ => rfl
    show code (plainModule path css onCssImported) = code (plainModule [] [] _)
    rw [plainModule_eq, plainModule_eq]
    refine sameCode_constant hpath (sameCode_quote path []) _ _ ?_
    refine sameCode_constant hcss (sameCode_quote css []) _ _ ?_
    cases onCssImported with
    | none => rfl
    | some name => exact sameCode_globalLookup honCss name [] _ _ rfl

/-- **Emitted modules decode back to what was put in.** One decoder gives back the kind of
a module, its path, its CSS, its class map and its callback, whatever texts they are; so
different modules have different sources; and the texts do not reach the code around them. -/
theorem source_reversible :
    (∀ path, decode? (assetModule .path path) = some (.asset path))
      ∧ (∀ css classNames onCss,
          decode? (scopedModule css classNames onCss) = some (.scopedSheet css classNames onCss))
      ∧ (∀ path css onCssImported,
          decode? (plainModule path css onCssImported)
            = some (.plainSheet path css onCssImported))
      ∧ Function.Injective Emitted.source
      ∧ ∀ m : Emitted, code m.source = code m.blank.source := by
  refine ⟨fun path => decode?_source (.asset path),
    fun css classNames onCss => decode?_source (.scopedSheet css classNames onCss),
    fun path css onCssImported => decode?_source (.plainSheet path css onCssImported), ?_,
    code_source⟩
  intro m m' h
  have hdecoded : some m = some m' := by rw [← decode?_source m, ← decode?_source m', h]
  exact Option.some_inj.mp hdecoded

end ModuleHooks.Emission
