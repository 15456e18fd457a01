import Assay.Decimal.Shortest

/-! Text of floating-point numbers. A layout fixes the decisions that formats
differ in: how a midway choice of digits goes, which decimal exponents are
written plainly, and what stands for values that are not finite. -/
namespace Assay.Decimal

structure Layout where
  tie : Tie
  /-- Whether a number `d.ddd * 10 ^ e` is written without an exponent. -/
  plain : Int → Bool
  notANumber : String
  infinity : String
  negativeInfinity : String

/-- Digits with a point, at least one digit on each side, for the number
`0.digits * 10 ^ point`. -/
def plainText (digits : List Char) (point : Int) : List Char :=
  if point ≤ 0 then
    ['0', '.'] ++ List.replicate (-point).toNat '0' ++ digits
  else if digits.length ≤ point.toNat then
    digits ++ List.replicate (point.toNat - digits.length) '0' ++ ['.', '0']
  else
    digits.take point.toNat ++ '.' :: digits.drop point.toNat

/-- A leading digit, the others after a point, and a signed exponent. -/
def exponentText (digits : List Char) (exponent : Int) : List Char :=
  let mantissa :=
    match digits with
    | first :: second :: rest => first :: '.' :: second :: rest
    | short => short
  let sign := if exponent < 0 then '-' else '+'
  mantissa ++ 'e' :: sign :: Nat.toDigits 10 exponent.natAbs

namespace Layout

variable (layout : Layout)

/-- The text of a finite magnitude other than zero. -/
def magnitudeText (format : BinaryFormat) (magnitude : Nat) : List Char :=
  let decimal := shortest format layout.tie magnitude
  let digits := Nat.toDigits 10 decimal.coefficient
  let point := decimal.exponent + digits.length
  if layout.plain (point - 1) then plainText digits point else exponentText digits (point - 1)

/-- The text of a bit pattern. Both zeros keep their sign. -/
def text (format : BinaryFormat) (bits : Nat) : List Char :=
  let magnitude := format.magnitude bits
  if format.infinity < magnitude then layout.notANumber.toList
  else if magnitude = format.infinity then
    (if format.negative bits then layout.negativeInfinity else layout.infinity).toList
  else
    (if format.negative bits then ['-'] else []) ++
      if magnitude = 0 then ['0', '.', '0'] else layout.magnitudeText format magnitude

end Layout

/-- Numbers in messages are written plainly, midway digits going up. -/
def messageLayout : Layout where
  tie := .up
  plain _ := true
  notANumber := "NaN"
  infinity := "inf"
  negativeInfinity := "-inf"

end Assay.Decimal
