import Assay.Proofs.Cell.Classification

/-! Amplifying a list of cells again and again. Each pass doubles a number within 128 bits,
and a number that has reached an end of the format stays there, so any number of passes
comes to one multiplication that is cut off once. The first pass drops what is neither a
number nor a text; the passes after it drop nothing. -/
namespace Assay

/-- A product that was cut off may be doubled in place of the exact one. -/
theorem BoundedInt.clamp_double_clamp {lo hi : Int} (ordered : lo ≤ hi) (low : lo ≤ 0)
    (high : 0 ≤ hi) (n : Int) : clamp ordered (2 * (clamp ordered n).val) = clamp ordered (2 * n) := by
  apply BoundedInt.ext
  simp only [clamp]
  omega

namespace Cell

/-- The cell after some passes, the first of which may drop it. -/
def amplified? (passes : Nat) : Cell → Option Cell
  | .number n => some (.number (BoundedInt.clamp int128_ordered (n.val * 2 ^ passes)))
  | .text s => some (.text (Text.upper^[passes] s))
  | .other => none

theorem amplified?_one (cell : Cell) : amplified? 1 cell = amplify? cell := by
  cases cell with
  | number n => rw [amplified?, amplify?, pow_one, mul_comm]
  | text s => rfl
  | other => rfl

/-- One more pass. -/
theorem amplified?_succ (passes : Nat) (cell : Cell) :
    amplified? (passes + 1) cell = (amplified? passes cell).bind amplify? := by
  cases cell with
  | number n =>
    have doubled : n.val * 2 ^ (passes + 1) = 2 * (n.val * 2 ^ passes) := by ring
    have cut := BoundedInt.clamp_double_clamp int128_ordered IntFormat.int128.least_le_zero
      IntFormat.int128.zero_le_greatest (n.val * 2 ^ passes)
    simp only [amplified?, Option.bind_some, amplify?, cut, doubled]
  | text s => simp only [amplified?, Option.bind_some, amplify?, Function.iterate_succ_apply']
  | other => rfl

/-- A positive number of passes is one pass over the cells. -/
theorem iterate_amplify (cells : List Cell) (passes : Nat) :
    amplify^[passes + 1] cells = cells.filterMap (amplified? (passes + 1)) := by
  induction passes with
  | zero => exact List.filterMap_congr fun cell _ => (amplified?_one cell).symm
  | succ passes ih =>
    rw [Function.iterate_succ_apply', ih, amplify, List.filterMap_filterMap]
    exact List.filterMap_congr fun cell _ => (amplified?_succ (passes + 1) cell).symm

/-- What some passes make of a cell: the exact product, or the end of the format on its side,
for a number, and the text in upper case, over and over. -/
def Repeated (passes : Nat) : Cell → Cell → Prop
  | .number n, result => ∃ m : Int128,
      m.val = max (-2 ^ 127) (min (n.val * 2 ^ passes) (2 ^ 127 - 1)) ∧ result = .number m
  | .text s, result => result = .text (Text.upper^[passes] s)
  | .other, _ => False

/-- There is only one result. -/
theorem repeated_rightUnique (passes : Nat) : Relator.RightUnique (Repeated passes) := by
  intro cell first second one two
  cases cell with
  | number n =>
    obtain ⟨m, value, rfl⟩ := one
    obtain ⟨k, value', rfl⟩ := two
    rw [BoundedInt.ext (value.trans value'.symm)]
  | text s => exact Eq.trans one (Eq.symm two)
  | other => exact one.elim

theorem exists_amplified {cell : Cell} (passes : Nat) (kept : cell ≠ .other) :
    ∃ result, amplified? passes cell = some result ∧ Repeated passes cell result := by
  cases cell with
  | number n => exact ⟨_, rfl, _, rfl, rfl⟩
  | text s => exact ⟨_, rfl, rfl⟩
  | other => contradiction

theorem repeated_iterate (cells : List Cell) (passes : Nat) :
    List.Forall₂ (Repeated (passes + 1)) (cells.filter (· ≠ .other))
      (amplify^[passes + 1] cells) := by
  rw [iterate_amplify]
  apply forall₂_filterMap
  · intro cell keep
    exact exists_amplified (passes + 1) (of_decide_eq_true keep)
  · intro cell drop
    obtain rfl : cell = .other := of_not_not (of_decide_eq_false drop)
    rfl

theorem other_not_mem_iterate (cells : List Cell) (passes : Nat) :
    .other ∉ amplify^[passes + 1] cells := by
  rw [iterate_amplify, List.mem_filterMap]
  rintro ⟨cell, _, result⟩
  cases cell with
  | number n | text s | other => cases result

/-- Any positive number of passes. Every cell but the others gives one result, in order:
a number its product with a power of two, cut off once at the ends of the format, and a text
its upper case, taken as often as there are passes. The results are as many as after the
first pass, and each part of a list is amplified by itself. -/
theorem amplify_repeated (cells : List Cell) (passes : Nat) (positive : 1 ≤ passes) :
    List.Forall₂ (Repeated passes) (cells.filter (· ≠ .other)) (amplify^[passes] cells) ∧
    .other ∉ amplify^[passes] cells ∧
    (amplify^[passes] cells).length = (amplify cells).length ∧
    ∀ more : List Cell,
      amplify^[passes] (cells ++ more) = amplify^[passes] cells ++ amplify^[passes] more := by
  obtain ⟨passes, rfl⟩ := Nat.exists_eq_add_of_le' positive
  refine ⟨repeated_iterate cells passes, other_not_mem_iterate cells passes, ?_, ?_⟩
  · calc
      (amplify^[passes + 1] cells).length = (cells.filter (· ≠ .other)).length :=
        (repeated_iterate cells passes).length_eq.symm
      _ = (amplify cells).length := (repeated_iterate cells 0).length_eq
  · intro more
    simp only [iterate_amplify, List.filterMap_append]

/-- A number for each end of the format, one in between, and a text that gets longer. -/
def stretched : List Cell :=
  [.number ⟨2 ^ 126, by decide, by decide⟩, .other, .text "straße",
    .number ⟨-2 ^ 126 - 1, by decide, by decide⟩, .other, .number ⟨3, by decide, by decide⟩]

theorem stretched_repeated :
    1 ≤ 2 ∧
    amplify^[2] stretched =
      [.number ⟨2 ^ 127 - 1, by decide, by decide⟩, .text "STRASSE",
        .number ⟨-2 ^ 127, by decide, by decide⟩, .number ⟨12, by decide, by decide⟩] ∧
    (amplify stretched).length = 4 ∧
    amplify^[2] (stretched ++ [.other]) = amplify^[2] stretched := by
  have positive : 1 ≤ 2 := by decide
  obtain ⟨results, _, size, parts⟩ := amplify_repeated stretched 2 positive
  have upper : Text.upper^[2] "straße" = "STRASSE" := by decide +kernel
  have reached := List.right_unique_forall₂' (repeated_rightUnique 2) results
    (.cons ⟨⟨2 ^ 127 - 1, by decide, by decide⟩, by decide, rfl⟩ <|
      .cons (congrArg Cell.text upper.symm) <|
      .cons ⟨⟨-2 ^ 127, by decide, by decide⟩, by decide, rfl⟩ <|
      .cons ⟨⟨12, by decide, by decide⟩, by decide, rfl⟩ .nil)
  refine ⟨positive, reached, ?_, ?_⟩
  · rw [← size, reached]
    rfl
  · rw [parts]
    exact List.append_nil _

end Cell

end Assay
