import Assay.Decimal.Integer
import Assay.Toml.Basic
import Assay.Toml.DateTime
import Assay.Toml.Text

/-! Values written without quotes or brackets: booleans, integers in four bases,
floating-point numbers and date-times. Underscores group digits; each stands
between two digits, or between a sign and a digit. The groups of a decimal
integer may hold other characters as well, and the digits after the mark of a
base may be missing: the number is then unreadable, but the text is well
formed. -/
namespace Assay.Toml

def isHexDigit (c : Char) : Bool := (Text.hexDigit? c).isSome

/-- The text without its underscores, each of which stands between two digits. -/
def ungroup? (isDigit : Char → Bool) : List Char → Option (List Char)
  | [] => some []
  | '_' :: _ => none
  | c :: '_' :: d :: rest =>
    if isDigit c && isDigit d then (ungroup? isDigit (d :: rest)).map (c :: ·) else none
  | c :: rest => (ungroup? isDigit rest).map (c :: ·)

/-- The natural number that digits below `base` write. -/
def natOfBase (base : Nat) (digits : List Char) : Nat :=
  digits.foldl (fun n c => base * n + (Text.hexDigit? c).getD 0) 0

/-- An integer after the mark of its base. -/
def radix? (base : Nat) (text : List Char) : Option Toml :=
  if text.all fun c => c = '_' || (Text.hexDigit? c).any (· < base) then
    (ungroup? isHexDigit text).map fun digits =>
      if digits = [] then .unreadable else .integer (natOfBase base digits)
  else none

/-- More than one digit, the first of them a zero. -/
def hasLeadingZero (text : List Char) : Bool := text.length ≠ 1 && text.head? = some '0'

/-- The value of an exponent; its digits may start with zeros. -/
def power? (text : List Char) : Option Int :=
  match text with
  | '-' :: digits => (Decimal.nat? digits).map fun n => -(n : Int)
  | '+' :: digits => (Decimal.nat? digits).map Int.ofNat
  | digits => (Decimal.nat? digits).map Int.ofNat

/-- What follows the digits of a floating-point number: nothing, or an exponent. -/
def exponent? : List Char → Option Int
  | [] => some 0
  | mark :: power => if mark = 'e' ∨ mark = 'E' then power? power else none

/-- The digits after the point, if there is one, and the exponent. -/
def tail? : List Char → Option (List Char × Int)
  | '.' :: rest =>
    match rest.takeWhile Char.isDigit with
    | [] => none
    | fraction => (exponent? (rest.dropWhile Char.isDigit)).map fun power => (fraction, power)
  | text => (exponent? text).map fun power => ([], power)

/-- The binary64 number nearest to `coefficient * 10 ^ exponent`. -/
def nearest (coefficient : Nat) (exponent : Int) : Float :=
  Float.ofScientific coefficient (exponent < 0) exponent.natAbs

/-- A floating-point number after its sign. Its digits may start with zeros when
it is `padded`. -/
def float? (negative padded : Bool) (text : List Char) : Option Toml := do
  let text ← ungroup? Char.isDigit text
  let whole := text.takeWhile Char.isDigit
  let (fraction, power) ← tail? (text.dropWhile Char.isDigit)
  if whole = [] ∨ (hasLeadingZero whole ∧ !padded) then none
  else
    let x := nearest (Decimal.natOfDigits (whole ++ fraction)) (power - fraction.length)
    return if x.isInf then .unreadable else .float (if negative then -x else x)

/-- How a decimal integer starts: with digits, the first of them no zero unless
it is alone, before an underscore or the end. A padded one starts with any
hexadecimal digit. -/
def startsInteger (padded : Bool) (text : List Char) : Bool :=
  if padded then text.head?.any isHexDigit
  else
    text.head?.any Char.isDigit && !hasLeadingZero text &&
      match text.dropWhile Char.isDigit with
      | [] => true
      | c :: _ => c = '_'

def integerValue (negative : Bool) (digits : List Char) : Toml :=
  if digits.all Char.isDigit then
    let n : Int := Decimal.natOfDigits digits
    .integer (if negative then -n else n)
  else .unreadable

/-- A decimal integer after its sign. -/
def integer? (negative padded : Bool) (text : List Char) : Option Toml :=
  if startsInteger padded text then (ungroup? isHexDigit text).map (integerValue negative) else none

/-- Characters that only floating-point numbers have. -/
def isFloatMark (c : Char) : Bool := c = '.' || c = 'e' || c = 'E'

/-- A decimal number after its sign. It is `padded` when an underscore stood
between the sign and it. -/
def decimal? (negative padded : Bool) (text : List Char) : Option Toml :=
  let rest := text.dropWhile Char.isDigit
  if rest.contains ' ' then none
  else if rest.any isFloatMark then float? negative padded text
  else integer? negative padded text

/-- A word for a number that has no digits. -/
def named? (negative : Bool) (text : List Char) : Option Toml :=
  if text = ['i', 'n', 'f'] then some (.float (if negative then -1 / 0 else 1 / 0))
  else if text = ['n', 'a', 'n'] then some (.float (0 / 0))
  else none

/-- A number after its sign. -/
def signed? (negative : Bool) : List Char → Option Toml
  | '_' :: rest => decimal? negative true rest
  | text => (named? negative text).or (decimal? negative false text)

def number? : List Char → Option Toml
  | '+' :: rest => signed? false rest
  | '-' :: rest => signed? true rest
  | '0' :: 'x' :: digits => radix? 16 digits
  | '0' :: 'o' :: digits => radix? 8 digits
  | '0' :: 'b' :: digits => radix? 2 digits
  | text => (named? false text).or (decimal? false false text)

/-- The value of a bare word. -/
def scalar? (text : List Char) : Option Toml :=
  if text = ['t', 'r', 'u', 'e'] then some (.boolean true)
  else if text = ['f', 'a', 'l', 's', 'e'] then some (.boolean false)
  else if isDateTime text then some (.dateTime (String.ofList text))
  else number? text

end Assay.Toml
