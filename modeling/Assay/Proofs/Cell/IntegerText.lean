import Assay.Archive
import Assay.Proofs.Cell.Classification
import Assay.Proofs.Json.Lexemes

/-! Integers from their decimal text to their cell and their shape. A text of any length is
read. It stays the integer that it spells where a JSON value holds that integer; elsewhere it
becomes a float or is refused, and nothing is left to amplify or describe. -/
namespace Assay

namespace Json

variable {n : Int}

theorem parse?_intString (n : Int) :
    parse? (Decimal.intString n) = (intLiteral n).value?.map .number := by
  rw [parse?, Decimal.intString, String.toList_ofList, Token.scan_intText]
  cases (intLiteral n).value? with
  | none => rfl
  | some number => rfl

theorem parse?_intString_of_held (held : Held n) :
    ∃ m : Integer, m.val = n ∧ parse? (Decimal.intString n) = some (.number (.integer m)) := by
  obtain ⟨m, rfl⟩ := exists_integer_iff.mpr held
  refine ⟨m, rfl, ?_⟩
  rw [parse?_intString, value?_integer]
  rfl

/-- Beyond the integers that a value holds, only a float can be read. -/
theorem parse?_intString_of_not_held (outside : ¬Held n) :
    parse? (Decimal.intString n) = none ∨
      ∃ x, parse? (Decimal.intString n) = some (.number (.float x)) := by
  rw [parse?_intString]
  cases value : (intLiteral n).value? with
  | none => exact .inl rfl
  | some number =>
    cases number with
    | integer m => exact absurd (exists_integer_iff.mp ⟨m, val_eq_of_value? value⟩) outside
    | float x => exact .inr ⟨x, rfl⟩

/-- The value is taken for the integer: its cell and its shape are, amplifying doubles it
without reaching the end of its format, and the description spells it. -/
structure Integral (n : Int) (v : Json) : Prop where
  cell : ∃ m : Int128, m.val = n ∧ Cell.ofJson v = .number m
  amplified : ∃ m : Int128, m.val = 2 * n ∧ Cell.amplify [Cell.ofJson v] = [.number m]
  shape : ∃ m : Int128, m.val = n ∧ Shape.ofJson v = .integer m
  description : (Shape.ofJson v).describe = some ("number: " ++ Decimal.intString n)

/-- The value is neither amplified nor described. -/
structure Unsorted (v : Json) : Prop where
  cell : Cell.ofJson v = .other
  amplified : Cell.amplify [Cell.ofJson v] = []
  shape : Shape.ofJson v = .other
  description : (Shape.ofJson v).describe = none

theorem integral_integer (m : Integer) : Integral m.val (.number (.integer m)) where
  cell := ⟨m.toInt128, rfl, Cell.ofJson_integer m⟩
  amplified := by
    rw [Cell.ofJson_integer]
    exact ⟨_, Cell.clamp_double (n := m.toInt128) m.lo_le m.le_hi, rfl⟩
  shape := ⟨m.toInt128, rfl, Shape.ofJson_integer m⟩
  description := by
    rw [Shape.ofJson_integer]
    rfl

theorem unsorted_float (x : Float) : Unsorted (.number (.float x)) := ⟨rfl, rfl, rfl, rfl⟩

theorem unsorted_object (members : Fields Json) : Unsorted (.object members) :=
  ⟨rfl, rfl, rfl, rfl⟩

end Json

namespace Archive

/-- The text of an integer of any size is read as that integer from -2^63 to 2^64 - 1, and
as something neither amplified nor described outside. -/
theorem read_intString (archive : Archive) (n : Int) :
    (-2 ^ 63 ≤ n ∧ n ≤ 2 ^ 64 - 1 → (archive.read (Decimal.intString n)).1.Integral n) ∧
    (¬(-2 ^ 63 ≤ n ∧ n ≤ 2 ^ 64 - 1) → (archive.read (Decimal.intString n)).1.Unsorted) := by
  constructor
  · intro held
    obtain ⟨m, rfl, parsed⟩ := Json.parse?_intString_of_held held
    rw [read, parsed]
    exact Json.integral_integer m
  · intro outside
    obtain refused | ⟨x, parsed⟩ := Json.parse?_intString_of_not_held outside
    · rw [read, refused]
      exact Json.unsorted_object []
    · rw [read, parsed]
      exact Json.unsorted_float x

/-- The integers at both ends, their neighbours outside, and one that no float reaches. -/
theorem read_ends :
    (Json.Held (-2 ^ 63) ∧ (empty.read (Decimal.intString (-2 ^ 63))).1.Integral (-2 ^ 63)) ∧
    (Json.Held (2 ^ 64 - 1) ∧
      (empty.read (Decimal.intString (2 ^ 64 - 1))).1.Integral (2 ^ 64 - 1)) ∧
    (¬Json.Held (-2 ^ 63 - 1) ∧ (empty.read (Decimal.intString (-2 ^ 63 - 1))).1.Unsorted) ∧
    (¬Json.Held (2 ^ 64) ∧ (empty.read (Decimal.intString (2 ^ 64))).1.Unsorted) ∧
    ¬Json.Held (10 ^ 200 * 10 ^ 200) ∧
      (empty.read (Decimal.intString (10 ^ 200 * 10 ^ 200))).1.Unsorted := by
  have least : Json.Held (-2 ^ 63) := by decide
  have greatest : Json.Held (2 ^ 64 - 1) := by decide
  have below : ¬Json.Held (-2 ^ 63 - 1) := by decide
  have above : ¬Json.Held (2 ^ 64) := by decide
  have far : ¬Json.Held (10 ^ 200 * 10 ^ 200) := by decide
  exact ⟨⟨least, (read_intString empty _).1 least⟩, ⟨greatest, (read_intString empty _).1 greatest⟩,
    ⟨below, (read_intString empty _).2 below⟩, ⟨above, (read_intString empty _).2 above⟩,
    far, (read_intString empty _).2 far⟩

end Archive

end Assay
