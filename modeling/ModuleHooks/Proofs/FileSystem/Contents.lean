import Mathlib.Tactic.SplitIfs
import ModuleHooks.FileSystem.Basic
/-!
# What a look-up does not ask

Looking a path up asks of a file that it is one and nothing more. Two file systems that differ in
the contents of files only lead a path to the same place (`AgreeUpTo.locate_eq`), and what is read
there is the same or two contents that the one may have in place of the other
(`AgreeUpTo.readText_cases`).
-/

namespace ModuleHooks.FileSystem

/-- **Two file systems that agree up to the contents of files**, where contents in the one may
stand for contents in the other as a relation says. -/
structure AgreeUpTo (related : List UInt8 → List UInt8 → Prop) (fs fs' : FileSystem) : Prop where
  /-- They are seen from the same directory. -/
  workingDirectory : fs'.workingDirectory = fs.workingDirectory
  /-- At every place they have the same node, or files with related contents. -/
  nodes : ∀ place, fs'.nodeAt? place = fs.nodeAt? place
    ∨ ∃ content content', fs.nodeAt? place = some (.file content)
      ∧ fs'.nodeAt? place = some (.file content') ∧ related content content'

/-- File systems that differ in the contents of one file agree up to them. -/
theorem agreeUpTo_cons {related : List UInt8 → List UInt8 → Prop} {content content' : List UInt8}
    (h : related content content') (place : Place) (nodes : List (Place × Node))
    (workingDirectory : Place) :
    AgreeUpTo related ⟨(place, .file content) :: nodes, workingDirectory⟩
      ⟨(place, .file content') :: nodes, workingDirectory⟩ where
  workingDirectory := rfl
  nodes other := by
    rw [nodeAt?, nodeAt?]
    split_ifs
    · exact Or.inl rfl
    · rw [List.find?_cons, List.find?_cons]
      cases place == other with
      | true => exact Or.inr ⟨content, content', rfl, rfl, h⟩
      | false => exact Or.inl rfl

namespace AgreeUpTo

variable {related : List UInt8 → List UInt8 → Prop} {fs fs' : FileSystem}
  (h : AgreeUpTo related fs fs')

include h

theorem isDirectoryAt_eq (place : Place) : fs'.isDirectoryAt place = fs.isDirectoryAt place := by
  rw [isDirectoryAt, isDirectoryAt]
  obtain heq | ⟨content, content', hnode, hnode', -⟩ := h.nodes place
  · rw [heq]
  · rw [hnode, hnode']
    rfl

theorem walk_eq (place : Place) (segments : List Text) :
    fs'.walk place segments = fs.walk place segments := by
  induction segments generalizing place with
  | nil => rw [walk, walk]
  | cons segment rest ih =>
    rw [walk, walk, h.isDirectoryAt_eq place]
    split_ifs
    · rfl
    · exact ih place
    · exact ih place.dropLast
    · rfl
    · obtain heq | ⟨content, content', hnode, hnode', -⟩ := h.nodes (place ++ [segment])
      · rw [heq]
        cases fs.nodeAt? (place ++ [segment]) with
        | none => rfl
        | some node =>
          cases node with
          | link target => rfl
          | file content => exact ih _
          | directory => exact ih _
      · rw [hnode, hnode']
        exact ih _

theorem follow_eq (n : Nat) (place : Place) (segments : List Text) :
    fs'.follow n place segments = fs.follow n place segments := by
  induction n generalizing place segments with
  | zero => rfl
  | succ n ih =>
    rw [follow, follow, h.walk_eq]
    cases fs.walk place segments with
    | arrived place => rfl
    | stopped why => rfl
    | detour place segments => exact ih place segments

/-- **A path leads to the same place.** -/
theorem locate_eq (p : Path) : fs'.locate p = fs.locate p := by
  rw [locate, locate, h.workingDirectory, h.follow_eq]

/-- **What is read at a path** is the same, or related. -/
theorem readText_cases (p : Path) :
    fs'.readText p = fs.readText p
      ∨ ∃ content content', fs.readBytes p = .ok content ∧ fs'.readBytes p = .ok content'
        ∧ related content content' := by
  cases hplace : fs.locate p with
  | error why =>
    refine Or.inl ?_
    rw [readText, readText, readBytes, readBytes, h.locate_eq, hplace]
  | ok place =>
    obtain heq | ⟨content, content', hnode, hnode', hrelated⟩ := h.nodes place
    · refine Or.inl ?_
      rw [readText, readText, readBytes, readBytes, h.locate_eq, hplace]
      dsimp only
      rw [heq]
    · refine Or.inr ⟨content, content', ?_, ?_, hrelated⟩
      · rw [readBytes, hplace]
        dsimp only
        rw [hnode]
      · rw [readBytes, h.locate_eq, hplace]
        dsimp only
        rw [hnode']

end AgreeUpTo

end ModuleHooks.FileSystem
