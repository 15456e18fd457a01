import Assay.Number.Binary

/-! The shortest decimal that identifies a binary floating-point number. A
finite number and the two ends of the interval of reals that round to it are
exact decimals, so the search runs over natural numbers: grids of one, two,
three and more leading digits are tried, and the first grid with a point inside
the interval supplies the answer. The ends belong to the interval when the
significand is even. -/
namespace Assay

/-- The number `coefficient * 10 ^ exponent`. -/
structure Decimal where
  coefficient : Nat
  exponent : Int
deriving DecidableEq

namespace Decimal

/-- What to take when a number lies midway between two candidates. -/
inductive Tie where
  | even
  | up
deriving DecidableEq

/-- A number and its rounding interval, all in units of `10 ^ unit`. -/
structure Neighbourhood where
  low : Nat
  mid : Nat
  high : Nat
  closed : Bool
  unit : Int

namespace Neighbourhood

def Holds (interval : Neighbourhood) (candidate : Nat) : Prop :=
  if interval.closed then interval.low ≤ candidate ∧ candidate ≤ interval.high
  else interval.low < candidate ∧ candidate < interval.high

instance (interval : Neighbourhood) (candidate : Nat) : Decidable (interval.Holds candidate) := by
  unfold Holds
  infer_instance

/-- The neighbourhood of a finite magnitude. Quarters of the last place make
every end an integer; below the smallest magnitude of an exponent the gap is
half as wide, except at the bottom of the format. -/
def ofMagnitude (format : BinaryFormat) (magnitude : Nat) : Neighbourhood :=
  let significand := format.significand magnitude
  let quarter := format.scale magnitude - 2
  let lowest :=
    significand = Nat.pow 2 format.fractionBits ∧ Nat.pow 2 (format.fractionBits + 1) ≤ magnitude
  let factor := if 0 ≤ quarter then Nat.pow 2 quarter.toNat else Nat.pow 5 (-quarter).toNat
  { low := (4 * significand - if lowest then 1 else 2) * factor
    mid := 4 * significand * factor
    high := (4 * significand + 2) * factor
    closed := significand % 2 = 0
    unit := min quarter 0 }

/-- The point of the grid with step `10 ^ places` that is nearest to the middle
among the points next to it inside the interval. -/
def nearest? (interval : Neighbourhood) (tie : Tie) (places : Nat) : Option Nat :=
  let step := Nat.pow 10 places
  let below := interval.mid / step
  let gapBelow := interval.mid - below * step
  let gapAbove := (below + 1) * step - interval.mid
  let first :=
    gapBelow < gapAbove ∨ (gapBelow = gapAbove ∧ tie = .even ∧ below % 2 = 0)
  match decide (interval.Holds (below * step)), decide (interval.Holds ((below + 1) * step)) with
  | true, true => some (if first then below else below + 1)
  | true, false => some below
  | false, true => some (below + 1)
  | false, false => none

/-- The coarsest grid with a hit, counting the step down from `10 ^ places`. -/
def search (interval : Neighbourhood) (tie : Tie) : Nat → Decimal
  | 0 => ⟨interval.mid, interval.unit⟩
  | places + 1 =>
    match interval.nearest? tie places with
    | some coefficient => ⟨coefficient, interval.unit + places⟩
    | none => search interval tie places

end Neighbourhood

/-- The same number without zeros at the end of its coefficient. -/
def trimZeros (d : Decimal) : Decimal :=
  if zero : d.coefficient = 0 then d
  else if d.coefficient % 10 = 0 then trimZeros ⟨d.coefficient / 10, d.exponent + 1⟩ else d
termination_by d.coefficient
decreasing_by omega

/-- The fewest digits that identify the finite magnitude among the numbers of
its format, and of those the nearest to it. -/
def shortest (format : BinaryFormat) (tie : Tie) (magnitude : Nat) : Decimal :=
  let interval := Neighbourhood.ofMagnitude format magnitude
  (interval.search tie (Nat.toDigits 10 interval.mid).length).trimZeros

end Decimal

end Assay
