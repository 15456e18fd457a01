import Assay.Decimal.Integer
import Assay.Json.Basic

/-! Number literals and their values. The integer and fraction digits fill a
64-bit significand for as long as they fit, together with a power of ten; the
value is the significand multiplied or divided once by that power, so it may
differ from the nearest binary64 number in the last place. -/
namespace Assay.Json

/-- A number as it is written. Digits are kept as characters. -/
structure Literal where
  negative : Bool
  whole : List Char
  fraction : Option (List Char)
  exponent : Option (Bool × List Char)

namespace Literal

open Decimal (digitValue natOfDigits)

/-- Whole digits join the significand while 64 bits hold it. Each of the rest
counts as a factor of ten. -/
def takeWhole : Nat → List Char → Nat × Int
  | significand, [] => (significand, 0)
  | significand, digit :: rest =>
    if 10 * significand + digitValue digit < Nat.pow 2 64 then
      takeWhole (10 * significand + digitValue digit) rest
    else (significand, rest.length + 1)

/-- Fraction digits join the significand while 64 bits hold it. The rest is
dropped. -/
def takeFraction : Nat → Int → List Char → Nat × Int
  | significand, exponent, [] => (significand, exponent)
  | significand, exponent, digit :: rest =>
    if 10 * significand + digitValue digit < Nat.pow 2 64 then
      takeFraction (10 * significand + digitValue digit) (exponent - 1) rest
    else (significand, exponent)

/-- The binary64 number nearest to `10 ^ k`. -/
def powerOfTen (k : Nat) : Float := Float.ofScientific 1 false k

/-- The greatest power of ten that is finite in binary64. -/
def greatestPower : Nat := 308

/-- `x * 10 ^ exponent`, one rounding per step; none when it would be infinite. -/
def scale (x : Float) (exponent : Int) : Option Float :=
  if 0 ≤ exponent then
    if exponent ≤ greatestPower then
      let product := x * powerOfTen exponent.toNat
      if product.isInf then none else some product
    else if x == 0 then some x else none
  else if -greatestPower ≤ exponent then some (x / powerOfTen (-exponent).toNat)
  else if x == 0 then some x
  else scale (x / powerOfTen greatestPower) (exponent + greatestPower)
termination_by (-exponent).toNat
decreasing_by simp only [greatestPower] at *; omega

/-- A sum of exponents kept within 32 bits. -/
def saturate (exponent : Int) : Int :=
  max IntFormat.int32.least (min exponent IntFormat.int32.greatest)

/-- The floating-point value of a significand, a power of ten and a written
exponent. A written exponent of more than 32 bits stands for zero or for a value
out of range. -/
def floatValue (significand : Nat) (exponent : Int) : Option (Bool × List Char) → Option Float
  | none => scale (Float.ofNat significand) exponent
  | some (below, digits) =>
    let written := natOfDigits digits
    if Nat.pow 2 31 ≤ written then
      if significand = 0 ∨ below then some 0 else none
    else
      scale (Float.ofNat significand)
        (saturate (if below then exponent - written else exponent + written))

/-- The value of the literal, none when it is out of range. Without fraction
and exponent it is an integer whenever 64 bits hold it, except that a negative
zero is a floating-point number. -/
def value? (literal : Literal) : Option Number :=
  let signed (x : Float) : Number := .float (if literal.negative then -x else x)
  let (significand, skipped) := takeWhole 0 literal.whole
  match literal.fraction, literal.exponent with
  | none, none =>
    if skipped = 0 then
      let exact : Int := if literal.negative then -significand else significand
      if literal.negative ∧ significand = 0 then some (signed 0)
      else match BoundedInt.ofInt? exact with
        | some n => some (.integer n)
        | none => some (signed (Float.ofNat significand))
    else (scale (Float.ofNat significand) skipped).map signed
  | fraction, written =>
    let (significand, exponent) := takeFraction significand skipped (fraction.getD [])
    (floatValue significand exponent written).map signed

end Literal

/-- A run of at least one digit. -/
def digits? (text : List Char) : Option (List Char × List Char) :=
  match text.takeWhile Char.isDigit with
  | [] => none
  | digits => some (digits, text.dropWhile Char.isDigit)

/-- The digits before the point: a zero alone, or a run that starts with
another digit. -/
def wholeDigits? : List Char → Option (List Char × List Char)
  | '0' :: rest => some (['0'], rest)
  | text => digits? text

/-- The digits after the point, if there is one. -/
def fraction? : List Char → Option (Option (List Char) × List Char)
  | '.' :: rest => (digits? rest).map fun (digits, rest) => (some digits, rest)
  | text => some (none, text)

/-- A written exponent with its sign, if there is one. -/
def exponent? : List Char → Option (Option (Bool × List Char) × List Char)
  | mark :: rest =>
    if mark = 'e' ∨ mark = 'E' then
      match rest with
      | '-' :: rest => (digits? rest).map fun (digits, rest) => (some (true, digits), rest)
      | '+' :: rest => (digits? rest).map fun (digits, rest) => (some (false, digits), rest)
      | rest => (digits? rest).map fun (digits, rest) => (some (false, digits), rest)
    else some (none, mark :: rest)
  | [] => some (none, [])

/-- A number literal at the front of the text, and what follows it. -/
def Literal.scan? (text : List Char) : Option (Literal × List Char) :=
  let (negative, unsigned) :=
    match text with
    | '-' :: rest => (true, rest)
    | rest => (false, rest)
  do
    let (whole, rest) ← wholeDigits? unsigned
    let (fraction, rest) ← fraction? rest
    let (exponent, rest) ← exponent? rest
    return (⟨negative, whole, fraction, exponent⟩, rest)

theorem digits?_length {text digits rest : List Char} (found : digits? text = some (digits, rest)) :
    rest.length < text.length := by
  unfold digits? at found
  split at found
  · contradiction
  · rename_i run nonempty
    cases found
    have whole := congrArg List.length (List.takeWhile_append_dropWhile (p := Char.isDigit) (l := text))
    cases taken : text.takeWhile Char.isDigit with
    | nil => exact absurd taken nonempty
    | cons first others =>
      simp only [taken, List.length_append, List.length_cons] at whole
      omega

theorem wholeDigits?_length {text digits rest : List Char}
    (found : wholeDigits? text = some (digits, rest)) : rest.length < text.length := by
  unfold wholeDigits? at found
  split at found
  · cases found; simp
  · exact digits?_length found

theorem fraction?_length {text rest : List Char} {fraction : Option (List Char)}
    (found : fraction? text = some (fraction, rest)) : rest.length ≤ text.length := by
  unfold fraction? at found
  split at found
  · obtain ⟨⟨digits, tail⟩, scanned, same⟩ := Option.map_eq_some_iff.mp found
    cases same
    have := digits?_length scanned
    simp only [List.length_cons]; omega
  · cases found; exact Nat.le_refl _

theorem exponent?_length {text rest : List Char} {exponent : Option (Bool × List Char)}
    (found : exponent? text = some (exponent, rest)) : rest.length ≤ text.length := by
  unfold exponent? at found
  split at found
  · split at found
    · split at found <;>
      · obtain ⟨⟨digits, tail⟩, scanned, same⟩ := Option.map_eq_some_iff.mp found
        cases same
        have := digits?_length scanned
        simp only [List.length_cons]; omega
    · cases found; exact Nat.le_refl _
  · cases found; exact Nat.le_refl _

/-- A literal has at least one character. -/
theorem Literal.scan?_length {text rest : List Char} {literal : Literal}
    (found : Literal.scan? text = some (literal, rest)) : rest.length < text.length := by
  have unsigned : (match text with
      | '-' :: rest => (true, rest)
      | rest => (false, rest)).2.length ≤ text.length := by
    split <;> simp
  simp only [Literal.scan?, bind, Option.bind_eq_some_iff, Prod.exists, pure, Option.some.injEq,
    Prod.mk.injEq] at found
  obtain ⟨_, _, whole, _, _, fraction, _, _, exponent, _, rfl⟩ := found
  have := wholeDigits?_length whole
  have := fraction?_length fraction
  have := exponent?_length exponent
  omega

end Assay.Json
