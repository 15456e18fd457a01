import Assay.Fields
import Assay.Number.Bounded

/-! JSON values. Objects keep the order in which their keys first appeared.
Integers are those that 64 bits hold, signed or unsigned; every other number is
a binary64 value. -/
namespace Assay

namespace Json

/-- The integers that a JSON value holds exactly. -/
abbrev Integer : Type := BoundedInt (-9223372036854775808) 18446744073709551615

def Integer.toInt128 (n : Integer) : Int128 := n.widen (by decide) (by decide)

inductive Number where
  | integer (n : Integer)
  | float (x : Float)
deriving DecidableEq

end Json

inductive Json where
  | null
  | bool (b : Bool)
  | number (n : Json.Number)
  | string (s : String)
  | array (items : List Json)
  | object (members : List (String × Json))
deriving BEq

namespace Json

/-- An integer as a JSON value. -/
def ofInt (n : Int) (fits : -9223372036854775808 ≤ n ∧ n ≤ 18446744073709551615) : Json :=
  .number (.integer ⟨n, fits.1, fits.2⟩)

/-- A finite number as itself, anything else as null. -/
def ofFloat (x : Float) : Json :=
  if x.isFinite then .number (.float x) else .null

/-- The member of an object. -/
def member? (name : String) : Json → Option Json
  | .object members => Fields.get? members name
  | _ => none

/-- An integer that fits the signed 64-bit format. -/
def int64? : Json → Option IntFormat.int64.Value
  | .number (.integer n) => BoundedInt.ofInt? n.val
  | _ => none

/-- An integer that fits the unsigned 64-bit format. -/
def uint64? : Json → Option IntFormat.uint64.Value
  | .number (.integer n) => BoundedInt.ofInt? n.val
  | _ => none

/-- An integer in 128 bits, tried with a sign and then without one. -/
def int128? (v : Json) : Option Int128 :=
  (v.int64?.map Int128.ofInt64).or (v.uint64?.map Int128.ofUInt64)

/-- No integer of a JSON value escapes both readings. -/
theorem int128?_integer (n : Integer) : int128? (.number (.integer n)) = some n.toInt128 := by
  have greatest : IntFormat.int64.greatest = 9223372036854775807 := by decide
  have least : IntFormat.int64.least = -9223372036854775808 := by decide
  have low := n.lo_le
  have high := n.le_hi
  rw [int128?, int64?, uint64?]
  cases signed : (BoundedInt.ofInt? n.val : Option IntFormat.int64.Value) with
  | some m =>
    have same := BoundedInt.ofInt?_eq_some_iff.mp signed
    exact congrArg some (BoundedInt.ext same)
  | none =>
    rw [BoundedInt.ofInt?_eq_none_iff] at signed
    have above : IntFormat.uint64.least ≤ n.val := by
      have zero : IntFormat.uint64.least = 0 := by decide
      omega
    have found : BoundedInt.ofInt? n.val = some (⟨n.val, above, high⟩ : IntFormat.uint64.Value) :=
      BoundedInt.ofInt?_eq_some_iff.mpr rfl
    rw [found]
    rfl

/-- A number as binary64; integers take the nearest value. -/
def float? : Json → Option Float
  | .number (.integer n) => some (Float.ofInt n.val)
  | .number (.float x) => some x
  | _ => none

mutual

/-- How deeply arrays and objects are nested. -/
def depth : Json → Nat
  | .array items => depthItems items + 1
  | .object members => depthMembers members + 1
  | _ => 0

def depthItems : List Json → Nat
  | [] => 0
  | item :: rest => max item.depth (depthItems rest)

def depthMembers : List (String × Json) → Nat
  | [] => 0
  | (_, value) :: rest => max value.depth (depthMembers rest)

end

end Json

end Assay
