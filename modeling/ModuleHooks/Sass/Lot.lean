/-!
# Drawing by lot

Some functions draw by lot. What they draw is no part of the style sheet, so that a style
sheet has no CSS of its own where one of them is called: it has one for the numbers that are
drawn. An evaluation asks for a number where it draws one and goes on with whatever number it
is given; it comes to a result with a stream of numbers. Two runs of the same evaluation are
run with two streams, about which nothing is known.

An evaluation that asks for no number is settled, and then it comes to the same result with
all streams (`Lot.run_of_settled?`).
-/

namespace ModuleHooks.Sass

/-- **The numbers that are drawn** in a run, one after the other. -/
abbrev Draws := Nat → Nat

/-- The stream of nothing but noughts. -/
def noughts : Draws := fun _ => 0

/-- **A computation that may draw by lot.** -/
inductive Lot (α : Type) where
  /-- The result is there. -/
  | done (a : α)
  /-- A number is drawn, and the computation goes on with it. -/
  | draw (next : Nat → Lot α)

namespace Lot

variable {α β : Type}

/-- One computation after another. -/
def bind : Lot α → (α → Lot β) → Lot β
  | done a, f => f a
  | draw next, f => draw fun n => (next n).bind f

instance : Monad Lot where
  pure := done
  bind := bind

/-- The result with the numbers of a stream from some position on. -/
def runFrom (draws : Draws) : Lot α → Nat → α
  | done a, _ => a
  | draw next, i => runFrom draws (next (draws i)) (i + 1)

/-- **The result with the numbers that are drawn.** -/
def run (draws : Draws) (x : Lot α) : α := x.runFrom draws 0

/-- The result of a computation that draws nothing. -/
def settled? : Lot α → Option α
  | done a => some a
  | draw _ => none

/-- **What draws nothing does not depend on what is drawn.** -/
theorem run_of_settled? {x : Lot α} {a : α} (h : x.settled? = some a) (draws : Draws) :
    x.run draws = a := by
  cases x with
  | done b => exact Option.some.inj h
  | draw next => cases h

end Lot

end ModuleHooks.Sass
