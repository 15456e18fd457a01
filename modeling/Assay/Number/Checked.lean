import Assay.Number.Bounded

/-! Arithmetic that reports overflow. Integer formats refuse a result they
cannot hold; the floating-point formats round and never refuse. -/
namespace Assay

/-- The operation whose exact result did not fit. -/
inductive Overflow where
  | add
  | multiply
deriving DecidableEq

def Overflow.message : Overflow → String
  | .add => "attempt to add with overflow"
  | .multiply => "attempt to multiply with overflow"

/-- A number type with addition and multiplication that may overflow. -/
class Checked (α : Type) where
  zero : α
  add : α → α → Except Overflow α
  multiply : α → α → Except Overflow α

/-- The exact integer in the interval, or the overflow of the operation that
produced it. -/
def BoundedInt.checked {lo hi : Int} (operation : Overflow) (exact : Int) :
    Except Overflow (BoundedInt lo hi) :=
  match BoundedInt.ofInt? exact with
  | some x => .ok x
  | none => .error operation

instance (format : IntFormat) : Checked format.Value where
  zero := ⟨0, format.least_le_zero, format.zero_le_greatest⟩
  add x y := BoundedInt.checked .add (x.val + y.val)
  multiply x y := BoundedInt.checked .multiply (x.val * y.val)

instance : Checked Float where
  zero := 0
  add x y := .ok (x + y)
  multiply x y := .ok (x * y)

instance : Checked Float32 where
  zero := 0
  add x y := .ok (x + y)
  multiply x y := .ok (x * y)

theorem BoundedInt.checked_eq_ok_iff {lo hi : Int} {operation : Overflow} {exact : Int}
    {x : BoundedInt lo hi} : BoundedInt.checked operation exact = .ok x ↔ x.val = exact := by
  rw [← BoundedInt.ofInt?_eq_some_iff]
  unfold BoundedInt.checked
  split <;> simp_all

end Assay
