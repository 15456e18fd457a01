import Assay.Number.Bounded

/-! Integers in decimal. Writing puts a minus sign before negative numbers and
no leading zeros. Reading also takes a plus sign and leading zeros, and refuses
a minus sign where the format has no negative numbers. -/
namespace Assay.Decimal

def intText (n : Int) : List Char :=
  if n < 0 then '-' :: Nat.toDigits 10 n.natAbs else Nat.toDigits 10 n.natAbs

def intString (n : Int) : String := String.ofList (intText n)

def digitValue (digit : Char) : Nat := digit.toNat - 48

/-- The natural number that a digit string denotes. -/
def natOfDigits (digits : List Char) : Nat :=
  digits.foldl (fun n digit => 10 * n + digitValue digit) 0

/-- The natural number of a text of one or more digits. -/
def nat? (text : List Char) : Option Nat :=
  if text ≠ [] ∧ text.all Char.isDigit then some (natOfDigits text) else none

/-- The value of a decimal text, if the format has it. -/
def read? (format : IntFormat) (text : String) : Option format.Value := do
  let n ← match text.toList with
    | '+' :: digits => (nat? digits).map Int.ofNat
    | '-' :: digits => if format.signed then (nat? digits).map fun n => -(n : Int) else none
    | digits => (nat? digits).map Int.ofNat
  BoundedInt.ofInt? n

end Assay.Decimal
