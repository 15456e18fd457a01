import Assay.Proofs.Number.Comparison
import Assay.Proofs.Summary.Exact

/-! Extremes of lists in which some values may not be numbers. When the first value is
one, each extreme is the earliest number that no value comes before or after, so of two
zeros it is the one that stands first, whatever its sign; later values that are not
numbers make no difference. When the first value is not a number, it stays for good, with
its sign and its fraction: values are bit patterns, which tell such values apart. -/
namespace Assay.Summary

section Leading

variable {α : Type} {place : α → Option Int} {before : α → α → Prop} {counts : α → Bool}
  {items rest : List α} {first best : α}

/-- `best` is the earliest of the items that count and that no item comes before. -/
def Leading (before : α → α → Prop) (counts : α → Bool) (items : List α) (best : α) : Prop :=
  ∃ earlier later, items = earlier ++ best :: later ∧ counts best = true ∧
    (∀ x ∈ items, ¬before x best) ∧
    ∀ x ∈ earlier, counts x = true → ∃ y ∈ items, before y x

/-- A comparison goes by places, and what counts is what has one. -/
structure Places (place : α → Option Int) (before : α → α → Prop) (counts : α → Bool) : Prop where
  before_iff : ∀ x y, before x y ↔ ∃ i j, place x = some i ∧ place y = some j ∧ i < j
  counts_eq : ∀ x, counts x = (place x).isSome

theorem Earliest.leading (places : Places place before counts)
    (earliest : Earliest place items best) : Leading before counts items best := by
  have ⟨earlier, later, i, split, placed, smaller, _⟩ := earliest
  refine ⟨earlier, later, split, ?_, ?_, ?_⟩
  · rw [places.counts_eq, placed]
    rfl
  · intro x among comes
    obtain ⟨j, k, other, own, less⟩ := (places.before_iff x best).mp comes
    exact absurd (earliest.le among own other) (not_le.mpr less)
  · intro x early number
    rw [places.counts_eq] at number
    obtain ⟨j, other⟩ := Option.isSome_iff_exists.mp number
    refine ⟨best, earliest.mem, (places.before_iff best x).mpr ?_⟩
    exact ⟨i, j, placed, other, smaller x early j other⟩

/-- A first item that counts and that nothing comes before leads. -/
theorem Leading.eq_first (leading : Leading before counts (first :: rest) best)
    (number : counts first = true) (least : ∀ x ∈ first :: rest, ¬before x first) :
    best = first := by
  obtain ⟨earlier, later, split, _, _, beaten⟩ := leading
  cases earlier with
  | nil => exact (List.cons.inj split).1.symm
  | cons x earlier =>
    obtain rfl : first = x := (List.cons.inj split).1
    obtain ⟨y, member, comes⟩ := beaten first List.mem_cons_self number
    exact absurd comes (least y member)

theorem pick_of_none {x : α} (missing : place x = none ∨ place best = none) :
    pick place best x = best := by
  unfold pick
  split
  · simp_all
  · rfl

theorem foldl_pick_of_none (missing : place first = none) (rest : List α) :
    rest.foldl (pick place) first = first := by
  induction rest with
  | nil => rfl
  | cons x rest ih =>
    rw [List.foldl_cons, pick_of_none (.inr missing), ih]

theorem Places.foldl_filter (places : Places place before counts) (rest : List α) (best : α) :
    (rest.filter counts).foldl (pick place) best = rest.foldl (pick place) best := by
  induction rest generalizing best with
  | nil => rfl
  | cons x rest ih =>
    by_cases number : counts x = true
    · rw [List.filter_cons_of_pos number, List.foldl_cons, List.foldl_cons, ih]
    · have missing : place x = none := by
        rw [places.counts_eq] at number
        simpa using number
      rw [List.filter_cons_of_neg number, List.foldl_cons, pick_of_none (.inl missing), ih]

theorem Places.foldl_leading (places : Places place before counts) (number : counts first = true)
    (rest : List α) : Leading before counts (first :: rest) (rest.foldl (pick place) first) := by
  rw [places.counts_eq] at number
  obtain ⟨i, placed⟩ := Option.isSome_iff_exists.mp number
  exact ((Earliest.singleton placed).foldl rest).leading places

theorem Places.foldl_of_not_counts (places : Places place before counts)
    (other : counts first = false) (rest : List α) : rest.foldl (pick place) first = first := by
  apply foldl_pick_of_none
  rw [places.counts_eq] at other
  simpa using other

end Leading

/-- Totals that round and never overflow. -/
theorem exists_totalOf_of_rounding {α τ : Type} [Totals α τ] {first : α} {rest : List α}
    (starts : ∀ x : α, ∃ sum : τ, Totals.first x = .ok sum)
    (continues : ∀ (sum : τ) (x : α), ∃ next, Totals.plus sum x = .ok next) :
    ∃ sum : τ, totalOf first rest = .ok sum := by
  obtain ⟨start, started⟩ := starts first
  have whole : ∀ sum : τ, ∃ whole, rest.foldlM Totals.plus sum = .ok whole := by
    induction rest with
    | nil => exact fun sum => ⟨sum, rfl⟩
    | cons x rest ih =>
      intro sum
      obtain ⟨next, added⟩ := continues sum x
      rw [List.foldlM_cons, added]
      exact ih next
  rw [totalOf, started]
  exact whole start

section Any

open OrderKey (key)

variable {α τ : Type} [OrderKey α] [Totals α τ] {before : α → α → Prop} {counts : α → Bool}
  {first : α} {rest : List α}

/-- Read backwards, what came after comes before. -/
theorem Places.back (places : Places (key : α → Option Int) before counts) :
    Places backKey (fun x y => before y x) counts where
  before_iff x y := by
    simp only [places.before_iff, backKey, Option.map_eq_some_iff]
    constructor
    · rintro ⟨i, j, lower, upper, less⟩
      exact ⟨-j, -i, ⟨j, upper, rfl⟩, ⟨i, lower, rfl⟩, neg_lt_neg less⟩
    · rintro ⟨_, _, ⟨j, upper, rfl⟩, ⟨i, lower, rfl⟩, less⟩
      exact ⟨i, j, lower, upper, neg_lt_neg_iff.mp less⟩
  counts_eq x := by
    rw [places.counts_eq, backKey, Option.isSome_map]

theorem ofList_of_totalOf {sum : τ} (totalled : totalOf first rest = .ok sum) :
    ∃ summary : Summary α τ, ofList (first :: rest) = .ok summary ∧
      summary.least = some (rest.foldl (pick key) first) ∧
      summary.greatest = some (rest.foldl (pick backKey) first) := by
  rw [ofList_cons, Progress.ofList_eq, totalled]
  exact ⟨_, rfl, rfl, rfl⟩

/-- The list has a summary. Each of its extremes is the earliest number that no element
comes before, or after; but a first element that is not a number is both. Other elements
that are not numbers may be left out or put in after the first. -/
def HasExtremes (before : α → α → Prop) (counts : α → Bool) (first : α) (rest : List α) : Prop :=
  ∃ (summary : Summary α τ) (least greatest : α), ofList (first :: rest) = .ok summary ∧
    summary.least = some least ∧ summary.greatest = some greatest ∧
    (counts first = false → least = first ∧ greatest = first) ∧
    (counts first = true → Leading before counts (first :: rest) least ∧
      Leading (fun x y => before y x) counts (first :: rest) greatest) ∧
    ∀ other, other.filter counts = rest.filter counts →
      ∃ again : Summary α τ, ofList (first :: other) = .ok again ∧
        again.least = some least ∧ again.greatest = some greatest

theorem Places.hasExtremes (places : Places (key : α → Option Int) before counts)
    (totals : ∀ other, other.filter counts = rest.filter counts →
      ∃ sum : τ, totalOf first other = .ok sum) : HasExtremes before counts first rest := by
  obtain ⟨sum, totalled⟩ := totals rest rfl
  obtain ⟨summary, made, least, greatest⟩ := ofList_of_totalOf totalled
  refine ⟨summary, _, _, made, least, greatest, ?_, ?_, ?_⟩
  · intro stuck
    exact ⟨places.foldl_of_not_counts stuck rest, places.back.foldl_of_not_counts stuck rest⟩
  · intro number
    exact ⟨places.foldl_leading number rest, places.back.foldl_leading number rest⟩
  · intro other same
    obtain ⟨sum, totalled⟩ := totals other same
    obtain ⟨again, made, least, greatest⟩ := ofList_of_totalOf totalled
    refine ⟨again, made, ?_, ?_⟩
    · rw [least, ← places.foldl_filter, same, places.foldl_filter]
    · rw [greatest, ← places.back.foldl_filter, same, places.back.foldl_filter]

end Any

section Numbers

open BinaryFormat (binary32 binary64)

theorem places_binary64 : Places OrderKey.key (fun x y : binary64.Pattern => x.toFloat < y.toFloat)
    (fun x => !x.toFloat.isNaN) where
  before_iff x y := by rw [← OrderKey.less_binary64_iff, OrderKey.less_eq_true_iff]
  counts_eq x := by rw [← OrderKey.isNone_key_binary64, Option.not_isNone]

theorem places_binary32 :
    Places OrderKey.key (fun x y : binary32.Pattern => x.toFloat32 < y.toFloat32)
      (fun x => !x.toFloat32.isNaN) where
  before_iff x y := by rw [← OrderKey.less_binary32_iff, OrderKey.less_eq_true_iff]
  counts_eq x := by rw [← OrderKey.isNone_key_binary32, Option.not_isNone]

theorem places_bounded (lo hi : Int) :
    Places OrderKey.key (fun x y : BoundedInt lo hi => x.val < y.val) (fun _ => true) where
  before_iff x y := by simp [OrderKey.key]
  counts_eq x := rfl

/-- Extremes of floating-point numbers of both formats go by the IEEE comparison, and
those of fewer than 2^63 integers of at most 64 bits by the order of integers. Patterns
compare as numbers but are kept bit for bit, so the zeros are two elements, and a first
element that is not a number is found again with its own sign and fraction. -/
theorem ofList_extremes :
    (∀ (first : binary64.Pattern) (rest : List binary64.Pattern),
      HasExtremes (fun x y => x.toFloat < y.toFloat) (fun x => !x.toFloat.isNaN) first rest) ∧
    (∀ (first : binary32.Pattern) (rest : List binary32.Pattern),
      HasExtremes (fun x y => x.toFloat32 < y.toFloat32) (fun x => !x.toFloat32.isNaN) first rest) ∧
    ∀ (format : IntFormat) (first : format.Value) (rest : List format.Value),
      format.bits ≤ 64 → (first :: rest).length < 2 ^ 63 →
      HasExtremes (fun x y => x.val < y.val) (fun _ => true) first rest := by
  refine ⟨?_, ?_, ?_⟩
  · intro first rest
    apply places_binary64.hasExtremes
    exact fun other _ => exists_totalOf_of_rounding (fun _ => ⟨_, rfl⟩) (fun _ _ => ⟨_, rfl⟩)
  · intro first rest
    apply places_binary32.hasExtremes
    exact fun other _ => exists_totalOf_of_rounding (fun _ => ⟨_, rfl⟩) (fun _ _ => ⟨_, rfl⟩)
  · intro format first rest narrow short
    apply (places_bounded _ _).hasExtremes
    intro other same
    -- Every integer counts, so there is no other list to compare with.
    obtain rfl : other = rest := by simpa using same
    obtain ⟨sum, totalled, _⟩ := exists_totalOf (fits_of_short narrow short)
    exact ⟨sum, totalled⟩

/-- Both zeros, the negative one first, with a value between them that is not a number. -/
def zeros : List binary64.Pattern := [⟨0x8000000000000000⟩, ⟨0x7ff8000000000000⟩, ⟨0⟩]

/-- Two values that are not numbers, differing in sign and fraction, then one and minus
infinity. -/
def unnumbered : List binary32.Pattern := [⟨0xffc00001⟩, ⟨0x7fc00000⟩, ⟨0x3f800000⟩, ⟨0xff800000⟩]

theorem zeros_extremes :
    (∃ summary, ofList zeros = .ok summary ∧ summary.least = some ⟨0x8000000000000000⟩ ∧
      summary.greatest = some ⟨0x8000000000000000⟩) ∧
    (∃ summary, ofList unnumbered = .ok summary ∧ summary.least = some ⟨0xffc00001⟩ ∧
      summary.greatest = some ⟨0xffc00001⟩) ∧
    IntFormat.int64.bits ≤ 64 ∧ swing.length < 2 ^ 63 ∧
      ∃ summary, ofList swing = .ok summary ∧
        summary.least = some (nearest .int64 (-9223372036854775808)) := by
  have narrow : IntFormat.int64.bits ≤ 64 := by decide
  have short : swing.length < 2 ^ 63 := by decide
  obtain ⟨double, single, integers⟩ := ofList_extremes
  refine ⟨?_, ?_, ?_⟩
  · obtain ⟨summary, least, greatest, made, low, high, _, number, _⟩ :=
      double ⟨0x8000000000000000⟩ [⟨0x7ff8000000000000⟩, ⟨0⟩]
    obtain ⟨lowest, highest⟩ := number (by decide)
    have same := lowest.eq_first (by decide) (by decide)
    have same' := highest.eq_first (by decide) (by decide)
    exact ⟨summary, made, same ▸ low, same' ▸ high⟩
  · obtain ⟨summary, least, greatest, made, low, high, stuck, _⟩ :=
      single ⟨0xffc00001⟩ [⟨0x7fc00000⟩, ⟨0x3f800000⟩, ⟨0xff800000⟩]
    obtain ⟨rfl, rfl⟩ := stuck (by decide)
    exact ⟨summary, made, low, high⟩
  · obtain ⟨summary, least, _, made, low, _, _, number, _⟩ :=
      integers .int64 (nearest .int64 (-9223372036854775808))
        [nearest .int64 9223372036854775807, nearest .int64 (-9223372036854775808)] narrow short
    have same := (number rfl).1.eq_first rfl (by decide)
    exact ⟨narrow, short, summary, made, same ▸ low⟩

end Numbers

end Assay.Summary
