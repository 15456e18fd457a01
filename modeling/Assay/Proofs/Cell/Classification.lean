import Assay.Cell
import Assay.Shape
import Mathlib

/-! Cells and shapes of JSON values. Both sort values, a cell by what can be amplified and
a shape by what can be described. They agree but for booleans, which are numbers among
the cells, and arrays, which are described but not amplified. -/
namespace Assay

namespace Shape

/-- The cell of a value of this shape. -/
def cell : Shape → Cell
  | .integer n => .number n
  | .boolean b => .ofBool b
  | .text s => .text s
  | .list _ => .other
  | .other => .other

/-- The shape of anything but an array, with a description. -/
def describedAlone : Shape → Bool
  | .list _ => false
  | shape => shape.describe.isSome

/-- What becomes of a value of this shape when it is amplified. -/
def Amplified : Shape → Cell → Prop
  | .integer n, result => ∃ m : Int128, m.val = 2 * n.val ∧ result = .number m
  | .boolean b, result => ∃ m : Int128, m.val = (if b then 2 else 0) ∧ result = .number m
  | .text s, result => result = .text (Text.upper s)
  | .list _, _ => False
  | .other, _ => False

end Shape

namespace Cell

theorem ofBool_eq_number_iff {b : Bool} {n : Int128} :
    ofBool b = .number n ↔ n.val = if b then 1 else 0 := by
  cases b with
  | true => simp [ofBool, BoundedInt.ext_iff, eq_comm]
  | false => simp [ofBool, BoundedInt.ext_iff, eq_comm]

/-- The shape of a value tells its cell. -/
theorem ofJson_eq_cell (v : Json) : ofJson v = (Shape.ofJson v).cell := by
  cases v with
  | number n =>
    cases n with
    | integer n =>
      rw [ofJson_integer, Shape.ofJson_integer]
      rfl
    | float x => rfl
  | null | bool b | string s | array items | object members => rfl

section Shapes

variable (shape : Shape)

theorem cell_eq_number_iff (n : Int128) :
    shape.cell = .number n ↔
      shape = .integer n ∨ ∃ b, shape = .boolean b ∧ n.val = if b then 1 else 0 := by
  cases shape with
  | boolean b => simp [Shape.cell, ofBool_eq_number_iff]
  | integer m | text s | list items | other => simp [Shape.cell]

theorem cell_eq_text_iff (s : String) : shape.cell = .text s ↔ shape = .text s := by
  cases shape with
  | boolean b => simp [Shape.cell, ofBool]
  | integer m | text t | list items | other => simp [Shape.cell]

theorem cell_eq_other_iff :
    shape.cell = .other ↔ (∃ items, shape = .list items) ∨ shape = .other := by
  cases shape with
  | boolean b => simp [Shape.cell, ofBool]
  | integer m | text s | list items | other => simp [Shape.cell]

end Shapes

section Lists

/-- Dropping from a list and turning what stays into something else, item by item. -/
theorem forall₂_filterMap {α β : Type} {keeps : α → Bool} {turn : α → Option β}
    {becomes : α → β → Prop}
    (kept : ∀ x, keeps x = true → ∃ y, turn x = some y ∧ becomes x y)
    (dropped : ∀ x, keeps x = false → turn x = none) (items : List α) :
    List.Forall₂ becomes (items.filter keeps) (items.filterMap turn) := by
  induction items with
  | nil => exact .nil
  | cons x rest ih =>
    cases keep : keeps x with
    | true =>
      obtain ⟨y, turned, result⟩ := kept x keep
      rw [List.filter_cons_of_pos keep, List.filterMap_cons_some turned]
      exact .cons result ih
    | false =>
      rw [List.filter_cons_of_neg (by simp [keep]), List.filterMap_cons_none (dropped x keep)]
      exact ih

/-- Twice an integer of 64 bits is within 128, so nothing is cut off. -/
theorem clamp_double {n : Int128} (low : -2 ^ 63 ≤ n.val) (high : n.val ≤ 2 ^ 64 - 1) :
    (BoundedInt.clamp int128_ordered (2 * n.val)).val = 2 * n.val := by
  have least : IntFormat.int128.least = -2 ^ 127 := by decide
  have greatest : IntFormat.int128.greatest = 2 ^ 127 - 1 := by decide
  simp only [BoundedInt.clamp, least, greatest]
  omega

theorem amplify?_ofJson_of_described {v : Json}
    (described : (Shape.ofJson v).describedAlone = true) :
    ∃ result, amplify? (ofJson v) = some result ∧ (Shape.ofJson v).Amplified result := by
  cases v with
  | number n =>
    cases n with
    | integer n =>
      rw [ofJson_integer, Shape.ofJson_integer]
      refine ⟨_, rfl, _, clamp_double ?_ ?_, rfl⟩
      · exact n.lo_le
      · exact n.le_hi
    | float x => contradiction
  | bool b =>
    refine ⟨_, rfl, _, ?_, rfl⟩
    cases b with
    | true => decide
    | false => decide
  | string s => exact ⟨_, rfl, rfl⟩
  | null | array items | object members =>
    simp [Shape.ofJson, Shape.describedAlone, Shape.describe] at described

theorem amplify?_ofJson_of_silent {v : Json} (silent : (Shape.ofJson v).describedAlone = false) :
    amplify? (ofJson v) = none := by
  rw [ofJson_eq_cell]
  cases shaped : Shape.ofJson v with
  | list items | other => rfl
  | boolean b => cases b <;> simp [shaped, Shape.describedAlone, Shape.describe] at silent
  | integer n | text s => simp [shaped, Shape.describedAlone, Shape.describe] at silent

end Lists

/-- Cells and shapes of JSON values agree. Amplifying a list of values gives, in order, one
result for each value other than an array that has a description, and nothing else. An
integer, a boolean or a string has the cell of its JSON value. -/
theorem ofJson_agrees :
    (∀ (v : Json) (n : Int128), ofJson v = .number n ↔
      Shape.ofJson v = .integer n ∨
        ∃ b, Shape.ofJson v = .boolean b ∧ n.val = if b then 1 else 0) ∧
    (∀ (v : Json) (s : String), ofJson v = .text s ↔ Shape.ofJson v = .text s) ∧
    (∀ v : Json, ofJson v = .other ↔
      (∃ items, Shape.ofJson v = .list items) ∨ Shape.ofJson v = .other) ∧
    (∀ vs : List Json, List.Forall₂ (fun v result => (Shape.ofJson v).Amplified result)
      (vs.filter fun v => (Shape.ofJson v).describedAlone) (amplify (vs.map ofJson))) ∧
    (∀ n : IntFormat.int64.Value, ∃ fits, ofInt64 n = ofJson (.ofInt n.val fits)) ∧
    (∀ b : Bool, ofBool b = ofJson (.bool b)) ∧
    ∀ s : String, ofString s = ofJson (.string s) := by
  refine ⟨?_, ?_, ?_, ?_, ?_, ?_, ?_⟩
  · intro v n
    rw [ofJson_eq_cell, cell_eq_number_iff]
  · intro v s
    rw [ofJson_eq_cell, cell_eq_text_iff]
  · intro v
    rw [ofJson_eq_cell, cell_eq_other_iff]
  · intro vs
    rw [amplify, List.filterMap_map]
    exact forall₂_filterMap (fun v => amplify?_ofJson_of_described)
      (fun v => amplify?_ofJson_of_silent) vs
  · intro n
    have least : IntFormat.int64.least = -9223372036854775808 := by decide
    have greatest : IntFormat.int64.greatest = 9223372036854775807 := by decide
    have low := n.lo_le
    have high := n.le_hi
    refine ⟨⟨by omega, by omega⟩, ?_⟩
    rw [Json.ofInt, ofJson_integer]
    rfl
  · intro b
    rfl
  · intro s
    rfl

end Cell

end Assay
