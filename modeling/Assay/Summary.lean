import Assay.Json.Writer
import Assay.Number.Binary
import Assay.Number.Checked

/-! Count, sum, mean and extremes of a list of numbers. Integers are totalled in
128 bits and floating-point numbers, which are given as bit patterns, in
binary64. The least and the greatest element are the earliest ones that no other
element comes before or after; an element that compares with nothing is replaced
by none and replaces none. -/
namespace Assay

/-- How the elements of a list are totalled. -/
class Totals (α : Type) (τ : outParam Type) where
  zero : τ
  first : α → Except Overflow τ
  plus : τ → α → Except Overflow τ
  toFloat : τ → Float

instance (lo hi : Int) : Totals (BoundedInt lo hi) Int128 where
  zero := ⟨0, by decide, by decide⟩
  first x := BoundedInt.checked .add x.val
  plus total x := BoundedInt.checked .add (total.val + x.val)
  toFloat total := Float.ofInt total.val

instance : Totals BinaryFormat.binary64.Pattern Float where
  zero := 0
  first x := .ok x.toFloat
  plus total x := .ok (total + x.toFloat)
  toFloat total := total

instance : Totals BinaryFormat.binary32.Pattern Float where
  zero := 0
  first x := .ok x.toFloat32.toFloat
  plus total x := .ok (total + x.toFloat32.toFloat)
  toFloat total := total

structure Summary (α τ : Type) where
  count : Nat
  sum : τ
  average : Float
  least : Option α
  greatest : Option α

namespace Summary

section Compute

variable {α τ : Type} [OrderKey α] [Totals α τ]

/-- A total with the extremes so far. -/
structure Progress (α τ : Type) where
  sum : τ
  least : α
  greatest : α

def Progress.first (x : α) : Except Overflow (Progress α τ) :=
  (Totals.first x).map fun sum => ⟨sum, x, x⟩

def Progress.next (progress : Progress α τ) (x : α) : Except Overflow (Progress α τ) :=
  (Totals.plus progress.sum x).map fun sum =>
    { sum
      least := if OrderKey.less x progress.least then x else progress.least
      greatest := if OrderKey.less progress.greatest x then x else progress.greatest }

def empty : Summary α τ := ⟨0, Totals.zero α, 0, none, none⟩

/-- The summary of a list; an overflow of the total is reported. -/
def ofList : List α → Except Overflow (Summary α τ)
  | [] => .ok empty
  | x :: rest => do
    let start ← Progress.first x
    let progress ← rest.foldlM Progress.next start
    let count := rest.length + 1
    return { count
             sum := progress.sum
             average := Totals.toFloat α progress.sum / Float.ofNat count
             least := some progress.least
             greatest := some progress.greatest }

end Compute

/-- A number that no JSON value holds. -/
inductive ConversionError where
  | outOfRange
deriving DecidableEq

def ConversionError.message : ConversionError → String
  | .outOfRange => "number out of range"

/-- A number type with its JSON text and, where one exists, its JSON value. The
text is written from the number itself, so it can be shorter than that of the
value, and it exists for numbers without a value. -/
class Reported (α : Type) where
  text : α → List Char
  json : α → Except ConversionError Json

instance (lo hi : Int) : Reported (BoundedInt lo hi) where
  text n := Decimal.intText n.val
  json n :=
    match BoundedInt.ofInt? n.val with
    | some n => .ok (.number (.integer n))
    | none => .error .outOfRange

instance : Reported Float where
  text := Json.float64Text
  json x := .ok (.ofFloat x)

instance : Reported BinaryFormat.binary64.Pattern where
  text x := Json.float64Layout.text .binary64 x.bits.toNat
  json x := .ok (.ofFloat x.toFloat)

instance : Reported BinaryFormat.binary32.Pattern where
  text x := Json.float32Layout.text .binary32 x.bits.toNat
  json x := .ok (.ofFloat x.toFloat32.toFloat)

instance : Reported Nat where
  text n := Nat.toDigits 10 n
  json n :=
    match BoundedInt.ofInt? (n : Int) with
    | some n => .ok (.number (.integer n))
    | none => .error .outOfRange

variable {α τ : Type} [Reported α] [Reported τ]

/-- The JSON object text of the summary. Extremes of an empty list are left
out. -/
def text (summary : Summary α τ) : String :=
  let extreme (name : String) : Option α → List (String × List Char)
    | some x => [(name, Reported.text x)]
    | none => []
  String.ofList <| Json.objectText <|
    [("count", Reported.text summary.count), ("sum", Reported.text summary.sum),
      ("average", Reported.text summary.average)] ++
    extreme "min" summary.least ++ extreme "max" summary.greatest

/-- The summary as a JSON value. -/
def toJson (summary : Summary α τ) : Except ConversionError Json := do
  let extreme (name : String) : Option α → Except ConversionError (Fields Json)
    | some x => (Reported.json x).map fun v => [(name, v)]
    | none => .ok []
  let count ← Reported.json summary.count
  let sum ← Reported.json summary.sum
  let average ← Reported.json summary.average
  let least ← extreme "min" summary.least
  let greatest ← extreme "max" summary.greatest
  return .object ([("count", count), ("sum", sum), ("average", average)] ++ least ++ greatest)

end Summary

end Assay
