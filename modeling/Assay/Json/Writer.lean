import Assay.Decimal.Integer
import Assay.Decimal.Layout
import Assay.Json.Basic
import Assay.Json.Text

/-! JSON text. The compact form has no blanks. The indented form puts every
item and member on a line of its own, two spaces further in than its container,
and leaves empty containers closed up. -/
namespace Assay.Json

/-- Binary64 numbers from `1e-5` up to sixteen whole digits are written plainly.
A value that is not a number, or infinite, is null. -/
def float64Layout : Decimal.Layout where
  tie := .even
  plain e := -5 ≤ e && e ≤ 15
  notANumber := "null"
  infinity := "null"
  negativeInfinity := "null"

/-- Binary32 numbers from `1e-6` up to thirteen whole digits are written
plainly. -/
def float32Layout : Decimal.Layout where
  tie := .even
  plain e := -6 ≤ e && e ≤ 12
  notANumber := "null"
  infinity := "null"
  negativeInfinity := "null"

def float64Text (x : Float) : List Char :=
  float64Layout.text .binary64 x.toBits.toNat

def Number.text : Number → List Char
  | .integer n => Decimal.intText n.val
  | .float x => float64Text x

def boolText (b : Bool) : List Char :=
  if b then ['t', 'r', 'u', 'e'] else ['f', 'a', 'l', 's', 'e']

mutual

def compactText : Json → List Char
  | .null => ['n', 'u', 'l', 'l']
  | .bool b => boolText b
  | .number n => n.text
  | .string s => quote s
  | .array items => '[' :: compactItems items ++ [']']
  | .object members => '\x7b' :: compactMembers members ++ ['\x7d']

def compactItems : List Json → List Char
  | [] => []
  | [item] => compactText item
  | item :: next :: rest => compactText item ++ ',' :: compactItems (next :: rest)

def compactMembers : List (String × Json) → List Char
  | [] => []
  | [(key, value)] => quote key ++ ':' :: compactText value
  | (key, value) :: next :: rest =>
    quote key ++ ':' :: (compactText value ++ ',' :: compactMembers (next :: rest))

end

/-- The members of an object, each with the text of its value. -/
def membersText : List (String × List Char) → List Char
  | [] => []
  | [(key, text)] => quote key ++ ':' :: text
  | (key, text) :: next :: rest => quote key ++ ':' :: (text ++ ',' :: membersText (next :: rest))

/-- An object whose values are given as text. -/
def objectText (members : List (String × List Char)) : List Char :=
  '\x7b' :: membersText members ++ ['\x7d']

/-- A line break and the indentation of a level. -/
def newLine (level : Nat) : List Char := '\n' :: List.replicate (2 * level) ' '

mutual

/-- The indented form of a value whose container stands at `level`. -/
def indentedText (level : Nat) : Json → List Char
  | .null => ['n', 'u', 'l', 'l']
  | .bool b => boolText b
  | .number n => n.text
  | .string s => quote s
  | .array [] => ['[', ']']
  | .array (item :: rest) =>
    '[' :: indentedItems (level + 1) (item :: rest) ++ newLine level ++ [']']
  | .object [] => ['\x7b', '\x7d']
  | .object (member :: rest) =>
    '\x7b' :: indentedMembers (level + 1) (member :: rest) ++ newLine level ++ ['\x7d']

def indentedItems (level : Nat) : List Json → List Char
  | [] => []
  | [item] => newLine level ++ indentedText level item
  | item :: next :: rest =>
    newLine level ++ indentedText level item ++ ',' :: indentedItems level (next :: rest)

def indentedMembers (level : Nat) : List (String × Json) → List Char
  | [] => []
  | [(key, value)] => newLine level ++ quote key ++ ':' :: ' ' :: indentedText level value
  | (key, value) :: next :: rest =>
    newLine level ++ quote key ++
      ':' :: ' ' :: (indentedText level value ++ ',' :: indentedMembers level (next :: rest))

end

def compact (v : Json) : String := String.ofList v.compactText

def pretty (v : Json) : String := String.ofList (v.indentedText 0)

end Assay.Json
