/-! TOML values. The entries of a table stand in ascending order of their keys,
each key once. Date-times keep their text. A number that is out of range, or
whose digits are none, is kept as unreadable, so that only its use is an
error. -/
namespace Assay

inductive Toml where
  | string (s : String)
  | integer (n : Int)
  | float (x : Float)
  | boolean (b : Bool)
  | dateTime (text : String)
  | unreadable
  | array (items : List Toml)
  | table (entries : List (String × Toml))

end Assay
