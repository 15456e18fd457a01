import Assay.Json.Basic
import Assay.Number.Binary

/-! A running value with the log of what was done to it. The log only grows; it
determines the value, given the first one. -/
namespace Assay

namespace Journal

inductive Operation where
  | add
  | multiply
deriving DecidableEq

def Operation.name : Operation → String
  | .add => "add"
  | .multiply => "multiply"

structure Entry (α : Type) where
  operation : Operation
  operand : α

/-- The entry with its operation by name. -/
def Entry.pair {α : Type} (entry : Entry α) : String × α := (entry.operation.name, entry.operand)

end Journal

structure Journal (α : Type) where
  value : α
  history : List (Journal.Entry α)

namespace Journal

section Record

variable {α : Type} [Add α] [Mul α]

/-- The value after an operation on `x`. -/
def Entry.apply (entry : Entry α) (x : α) : α :=
  match entry.operation with
  | .add => x + entry.operand
  | .multiply => x * entry.operand

def start (x : α) : Journal α := ⟨x, []⟩

def record (journal : Journal α) (entry : Entry α) : Journal α :=
  ⟨entry.apply journal.value, journal.history ++ [entry]⟩

def add (journal : Journal α) (x : α) : Journal α := journal.record ⟨.add, x⟩

def multiply (journal : Journal α) (x : α) : Journal α := journal.record ⟨.multiply, x⟩

end Record

section Same

variable {α : Type} [OrderKey α]

/-- The same operation on numbers that compare equal. -/
def Entry.same (left right : Entry α) : Bool :=
  left.operation = right.operation && OrderKey.same left.operand right.operand

def sameHistory : List (Entry α) → List (Entry α) → Bool
  | [], [] => true
  | left :: lefts, right :: rights => left.same right && sameHistory lefts rights
  | _, _ => false

def same (left right : Journal α) : Bool :=
  OrderKey.same left.value right.value && sameHistory left.history right.history

end Same

def Entry.toJson (entry : Entry Float) : Json :=
  .object [("kind", .string entry.operation.name), ("operand", .ofFloat entry.operand)]

/-- The log as a JSON array, oldest entry first. -/
def historyToJson (history : List (Entry Float)) : Json := .array (history.map Entry.toJson)

end Journal

end Assay
