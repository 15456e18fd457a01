import Assay.Number.Bounded

/-! Binary floating-point formats by their bit patterns. A pattern is a sign, an
exponent and a fraction; patterns whose magnitude exceeds that of infinity are
not numbers. The order of numbers is the order of an integer key: both zeros
have key zero, and a pattern that is not a number has none, so it compares with
nothing, not even with itself. -/
namespace Assay

structure BinaryFormat where
  fractionBits : Nat
  exponentBits : Nat
deriving DecidableEq

namespace BinaryFormat

def binary32 : BinaryFormat := ⟨23, 8⟩
def binary64 : BinaryFormat := ⟨52, 11⟩

variable (format : BinaryFormat)

/-- The number of bits of a pattern. -/
def width : Nat := format.fractionBits + format.exponentBits + 1

/-- The weight of the sign bit. -/
def signPlace : Nat := Nat.pow 2 (format.fractionBits + format.exponentBits)

def negative (bits : Nat) : Bool := format.signPlace ≤ bits

/-- The pattern without its sign. -/
def magnitude (bits : Nat) : Nat := bits % format.signPlace

/-- The magnitude of the infinities; every larger one is not a number. -/
def infinity : Nat := (Nat.pow 2 format.exponentBits - 1) * Nat.pow 2 format.fractionBits

/-- The significand of a finite magnitude, with the leading one that normal
numbers leave out. -/
def significand (magnitude : Nat) : Nat :=
  if magnitude < Nat.pow 2 format.fractionBits then magnitude
  else magnitude % Nat.pow 2 format.fractionBits + Nat.pow 2 format.fractionBits

/-- The power of two by which the significand of a finite magnitude counts. -/
def scale (magnitude : Nat) : Int :=
  (max 1 (magnitude / Nat.pow 2 format.fractionBits) : Nat) -
    (Nat.pow 2 (format.exponentBits - 1) - 1 + format.fractionBits : Nat)

/-- The place of a pattern on the number line. -/
def orderKey (bits : Nat) : Option Int :=
  if format.infinity < format.magnitude bits then none
  else if format.negative bits then some (-(format.magnitude bits : Int))
  else some (format.magnitude bits)

/-- A value as it is stored. Patterns that are not numbers differ in sign and
fraction, which `Float` and `Float32` do not keep. -/
structure Pattern where
  bits : BitVec format.width
deriving DecidableEq

namespace Pattern

def toFloat (x : binary64.Pattern) : Float := Float.ofBits (UInt64.ofBitVec x.bits)

def toFloat32 (x : binary32.Pattern) : Float32 := Float32.ofBits (UInt32.ofBitVec x.bits)

end Pattern

end BinaryFormat

/-- Values placed on the integer line; a value without a place is comparable
with nothing. -/
class OrderKey (α : Type) where
  key : α → Option Int

namespace OrderKey

variable {α : Type} [OrderKey α]

/-- Strictly before, on the line. -/
def less (x y : α) : Bool :=
  match key x, key y with
  | some i, some j => i < j
  | _, _ => false

/-- At the same place of the line. -/
def same (x y : α) : Bool :=
  match key x, key y with
  | some i, some j => i = j
  | _, _ => false

theorem less_eq_true_iff {x y : α} :
    less x y = true ↔ ∃ i j, key x = some i ∧ key y = some j ∧ i < j := by
  unfold less
  split <;> simp_all

theorem same_eq_true_iff {x y : α} :
    same x y = true ↔ ∃ i, key x = some i ∧ key y = some i := by
  unfold same
  split <;> simp_all
  exact eq_comm

end OrderKey

instance (lo hi : Int) : OrderKey (BoundedInt lo hi) := ⟨fun x => some x.val⟩

instance : OrderKey Float := ⟨fun x => BinaryFormat.binary64.orderKey x.toBits.toNat⟩

instance : OrderKey Float32 := ⟨fun x => BinaryFormat.binary32.orderKey x.toBits.toNat⟩

instance (format : BinaryFormat) : OrderKey format.Pattern :=
  ⟨fun x => format.orderKey x.bits.toNat⟩

end Assay
