import Assay.Number.Checked

/-! A running value that is added to and multiplied. A step computes before it
stores, so one whose result overflows is reported and never comes to storing. -/
namespace Assay

structure Accumulator (α : Type) where
  value : α

namespace Accumulator

inductive Step (α : Type) where
  | add (x : α)
  | multiply (x : α)

variable {α : Type} [Checked α]

def zero : Accumulator α := ⟨Checked.zero⟩

/-- The result of a step on a value. -/
def Step.compute (value : α) : Step α → Except Overflow α
  | .add x => Checked.add value x
  | .multiply x => Checked.multiply value x

/-- Takes a step: the result is computed, stored and given back. -/
def perform (step : Step α) : ExceptT Overflow (StateM (Accumulator α)) α := do
  let result ← ExceptT.mk (pure (step.compute (← get).value))
  set (mk result)
  return (← get).value

/-- A result that cannot be computed is not stored. -/
theorem run_perform (accumulator : Accumulator α) (step : Step α) :
    (perform step).run.run accumulator =
      match step.compute accumulator.value with
      | .ok result => (.ok result, ⟨result⟩)
      | .error overflow => (.error overflow, accumulator) := by
  have opened : (perform step).run.run accumulator =
      ExceptT.bindCont (m := StateM (Accumulator α))
        (fun result => do
          set (mk result)
          return (← get).value)
        (step.compute accumulator.value) accumulator := rfl
  rw [opened]
  cases step.compute accumulator.value with
  | ok result => rfl
  | error overflow => rfl

/-- What a step gives back. -/
def apply (accumulator : Accumulator α) (step : Step α) : Except Overflow α :=
  ((perform step).run.run accumulator).1

/-- The state after a step, whether or not it overflowed. -/
def advance (accumulator : Accumulator α) (step : Step α) : Accumulator α :=
  ((perform step).run.run accumulator).2

def run (accumulator : Accumulator α) (steps : List (Step α)) : Accumulator α :=
  steps.foldl advance accumulator

end Accumulator

end Assay
