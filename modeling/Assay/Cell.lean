import Assay.Json.Basic
import Assay.Text.Upper

/-! Cells of a list of mixed values. Amplifying doubles the numbers, within 128
bits, puts the texts in upper case and drops everything else; order is kept. -/
namespace Assay

inductive Cell where
  | number (n : Int128)
  | text (s : String)
  | other
deriving DecidableEq

namespace Cell

theorem int128_ordered : IntFormat.int128.least ≤ IntFormat.int128.greatest := by decide

def ofInt64 (n : IntFormat.int64.Value) : Cell :=
  .number (Int128.ofInt64 n)

def ofBool (b : Bool) : Cell :=
  .number
    (if b then ⟨1, by decide, by decide⟩
    else ⟨0, IntFormat.int128.least_le_zero, IntFormat.int128.zero_le_greatest⟩)

def ofString (s : String) : Cell := .text s

/-- Integers and booleans are numbers, strings are text, all else is other. -/
def ofJson : Json → Cell
  | .number n => (Json.number n).int128?.elim .other .number
  | .bool b => ofBool b
  | .string s => .text s
  | _ => .other

theorem ofJson_integer (n : Json.Integer) :
    ofJson (.number (.integer n)) = .number n.toInt128 := by
  rw [ofJson, Json.int128?_integer]
  rfl

def amplify? : Cell → Option Cell
  | .number n => some (.number (BoundedInt.clamp int128_ordered (2 * n.val)))
  | .text s => some (.text (Text.upper s))
  | .other => none

def amplify (cells : List Cell) : List Cell := cells.filterMap amplify?

end Cell

end Assay
