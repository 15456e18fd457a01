import Assay.Decimal.Integer
import Assay.Json.Basic

/-! Shapes of JSON values, and what can be said of a value in a few words.
Fractions, nulls and objects have no description. -/
namespace Assay

inductive Shape where
  | integer (n : Int128)
  | boolean (b : Bool)
  | text (s : String)
  | list (items : List Json)
  | other

namespace Shape

def ofJson : Json → Shape
  | .number n => (Json.number n).int128?.elim .other .integer
  | .bool b => .boolean b
  | .string s => .text s
  | .array items => .list items
  | _ => .other

theorem ofJson_integer (n : Json.Integer) :
    ofJson (.number (.integer n)) = .integer n.toInt128 := by
  rw [ofJson, Json.int128?_integer]
  rfl

/-- Booleans are described as numbers. -/
def describe : Shape → Option String
  | .integer n => some ("number: " ++ Decimal.intString n.val)
  | .boolean true => some "number: True"
  | .boolean false => some "number: False"
  | .text s => some ("text: " ++ s)
  | .list items => some ("list with " ++ Decimal.intString items.length ++ " items")
  | .other => none

/-- The names of the members that have a description, each with its description. -/
def describedPairs (fields : Fields Json) : List (String × Json) :=
  fields.filterMap fun (name, value) =>
    (ofJson value).describe.map fun words => (name, .string words)

/-- The descriptions of an object's members, in order. Members without one are
left out. -/
def describeFields (fields : Fields Json) : Fields Json := Fields.ofPairs (describedPairs fields)

end Shape

end Assay
