import Assay.Proofs.Accumulator.Exact
import Assay.Proofs.Summary.Progress

/-! Summaries of integers. Totals are kept in 128 bits, so a list of fewer than 2^63
numbers of at most 64 bits never overflows, not even at a prefix. Its summary holds the
number of elements, their exact sum and the least and the greatest of them. -/
namespace Assay

theorem BoundedInt.exists_checked {format : IntFormat} {n : Int} (operation : Overflow)
    (held : format.Holds n) :
    ∃ x : format.Value, BoundedInt.checked operation n = .ok x ∧ x.val = n := by
  obtain ⟨low, high⟩ := (format.holds_iff n).mp held
  exact ⟨⟨n, low, high⟩, BoundedInt.checked_eq_ok_iff.mpr rfl, rfl⟩

namespace Summary

section Interval

variable {lo hi : Int} {numbers : List (BoundedInt lo hi)}

/-- The exact sum of a list of integers. -/
def total (numbers : List (BoundedInt lo hi)) : Int := (numbers.map BoundedInt.val).sum

@[simp] theorem total_nil : total ([] : List (BoundedInt lo hi)) = 0 := rfl

@[simp] theorem total_cons (x : BoundedInt lo hi) (rest : List (BoundedInt lo hi)) :
    total (x :: rest) = x.val + total rest := List.sum_cons

@[simp] theorem total_append (first second : List (BoundedInt lo hi)) :
    total (first ++ second) = total first + total second := by
  simp [total]

theorem mul_le_total {bound : Int} (low : ∀ x ∈ numbers, bound ≤ x.val) :
    numbers.length * bound ≤ total numbers := by
  have sum := List.card_nsmul_le_sum (numbers.map BoundedInt.val) bound (by simpa using low)
  simpa [total] using sum

theorem total_le_mul {bound : Int} (high : ∀ x ∈ numbers, x.val ≤ bound) :
    total numbers ≤ numbers.length * bound := by
  have sum := List.sum_le_card_nsmul (numbers.map BoundedInt.val) bound (by simpa using high)
  simpa [total] using sum

/-- The total of every prefix can be kept in 128 bits. -/
def Fits (numbers : List (BoundedInt lo hi)) : Prop :=
  ∀ start, start <+: numbers → IntFormat.int128.Holds (total start)

theorem foldlM_plus (numbers : List (BoundedInt lo hi)) (sum : Int128)
    (fits : ∀ start, start <+: numbers → IntFormat.int128.Holds (sum.val + total start)) :
    ∃ whole : Int128, numbers.foldlM Totals.plus sum = .ok whole ∧
      whole.val = sum.val + total numbers := by
  induction numbers generalizing sum with
  | nil => exact ⟨sum, rfl, by simp⟩
  | cons x rest ih =>
    -- The total so far is free in the induction; with it move the prefixes that have to fit.
    have held : IntFormat.int128.Holds (sum.val + x.val) := by
      simpa using fits [x] (by simp)
    obtain ⟨next, added, exact⟩ := BoundedInt.exists_checked .add held
    have shifted (start : List (BoundedInt lo hi)) :
        next.val + total start = sum.val + total (x :: start) := by
      rw [exact, total_cons, add_assoc]
    obtain ⟨whole, folded, result⟩ := ih next fun start begins => by
      rw [shifted]
      exact fits (x :: start) ((List.prefix_cons_inj x).mpr begins)
    refine ⟨whole, ?_, result.trans (shifted rest)⟩
    rw [List.foldlM_cons]
    exact (congrArg (· >>= _) added).trans folded

/-- Starting with the first element comes to the same as adding it to zero. -/
theorem totalOf_eq_foldlM (x : BoundedInt lo hi) (rest : List (BoundedInt lo hi)) :
    totalOf x rest = (x :: rest).foldlM Totals.plus (Totals.zero (BoundedInt lo hi)) := by
  have start : Totals.first x = Totals.plus (Totals.zero (BoundedInt lo hi)) x :=
    congrArg (BoundedInt.checked .add) (Int.zero_add x.val).symm
  rw [totalOf, List.foldlM_cons, start]

theorem exists_totalOf {x : BoundedInt lo hi} {rest : List (BoundedInt lo hi)}
    (fits : Fits (x :: rest)) :
    ∃ sum : Int128, totalOf x rest = .ok sum ∧ sum.val = total (x :: rest) := by
  have zero : (Totals.zero (BoundedInt lo hi)).val = 0 := rfl
  obtain ⟨sum, folded, result⟩ := foldlM_plus (x :: rest) (Totals.zero (BoundedInt lo hi))
    fun start begins => by
      rw [zero, zero_add]
      exact fits start begins
  rw [zero, zero_add] at result
  exact ⟨sum, (totalOf_eq_foldlM x rest).trans folded, result⟩

/-- What stands for one end of a list: nothing when the list is empty, else an element
at the least place. -/
def IsExtreme (place : BoundedInt lo hi → Int) (numbers : List (BoundedInt lo hi)) :
    Option (BoundedInt lo hi) → Prop
  | none => numbers = []
  | some x => x ∈ numbers ∧ ∀ y ∈ numbers, place x ≤ place y

theorem IsExtreme.eq_none_iff {place : BoundedInt lo hi → Int} {extreme : Option (BoundedInt lo hi)}
    (isExtreme : IsExtreme place numbers extreme) : extreme = none ↔ numbers = [] := by
  cases extreme with
  | none => exact ⟨fun _ => isExtreme, fun _ => rfl⟩
  | some x =>
    constructor
    · nofun
    · intro empty
      have member := isExtreme.1
      simp [empty] at member

theorem Earliest.isExtreme {line : BoundedInt lo hi → Option Int} {place : BoundedInt lo hi → Int}
    {best : BoundedInt lo hi} (earliest : Earliest line numbers best)
    (placed : ∀ x, line x = some (place x)) : IsExtreme place numbers (some best) := by
  refine ⟨earliest.mem, ?_⟩
  intro y member
  exact earliest.le member (placed best) (placed y)

/-- The mean of a total, zero when nothing was counted. -/
def mean (sum : Int128) (count : Nat) : Float :=
  if count = 0 then 0 else Float.ofInt sum.val / Float.ofNat count

/-- What a summary should say of a list of integers. -/
structure Describes (numbers : List (BoundedInt lo hi))
    (summary : Summary (BoundedInt lo hi) Int128) : Prop where
  count : summary.count = numbers.length
  sum : summary.sum.val = total numbers
  average : summary.average = mean summary.sum summary.count
  least : IsExtreme BoundedInt.val numbers summary.least
  greatest : IsExtreme (fun x => -x.val) numbers summary.greatest

theorem exists_progress {x : BoundedInt lo hi} {rest : List (BoundedInt lo hi)}
    (fits : Fits (x :: rest)) :
    ∃ progress : Progress (BoundedInt lo hi) Int128,
      Progress.ofList x rest = .ok progress ∧ progress.sum.val = total (x :: rest) ∧
      IsExtreme BoundedInt.val (x :: rest) (some progress.least) ∧
      IsExtreme (fun x => -x.val) (x :: rest) (some progress.greatest) := by
  obtain ⟨sum, totalled, exact⟩ := exists_totalOf fits
  have least : Earliest OrderKey.key [x] x := .singleton rfl
  have greatest : Earliest backKey [x] x := .singleton rfl
  refine ⟨⟨sum, _, _⟩, ?_, exact, (least.foldl rest).isExtreme fun _ => rfl,
    (greatest.foldl rest).isExtreme fun _ => rfl⟩
  rw [Progress.ofList_eq, totalled]
  rfl

theorem exists_describes (fits : Fits numbers) :
    ∃ summary, ofList numbers = .ok summary ∧ Describes numbers summary := by
  cases numbers with
  | nil => exact ⟨empty, rfl, ⟨rfl, rfl, rfl, rfl, rfl⟩⟩
  | cons x rest =>
    obtain ⟨progress, reached, exact, least, greatest⟩ := exists_progress fits
    rw [ofList_cons, reached]
    exact ⟨_, rfl, ⟨rfl, exact, rfl, least, greatest⟩⟩

end Interval

section Format

variable {format : IntFormat} {numbers : List format.Value}

theorem holds_narrow (narrow : format.bits ≤ 64) (x : format.Value) :
    -2 ^ 64 ≤ x.val ∧ x.val ≤ 2 ^ 64 := by
  have held := (format.holds_iff x.val).mpr ⟨x.lo_le, x.le_hi⟩
  have long : (2 : Int) ^ format.bits ≤ 2 ^ 64 := pow_le_pow_right₀ (by decide) narrow
  have short : (2 : Int) ^ (format.bits - 1) ≤ 2 ^ format.bits :=
    pow_le_pow_right₀ (by decide) (Nat.sub_le _ _)
  unfold IntFormat.Holds at held
  split at held <;> omega

/-- Fewer than 2^63 numbers of at most 64 bits stay within 127 bits and a sign. -/
theorem fits_of_short (narrow : format.bits ≤ 64) (short : numbers.length < 2 ^ 63) :
    Fits numbers := by
  intro start begins
  have size := begins.length_le
  have low := mul_le_total fun x (_ : x ∈ start) => (holds_narrow narrow x).1
  have high := total_le_mul fun x (_ : x ∈ start) => (holds_narrow narrow x).2
  have signed : IntFormat.int128.Holds (total start) ↔
      -2 ^ 127 ≤ total start ∧ total start < 2 ^ 127 := Iff.rfl
  rw [signed]
  omega

theorem exists_describes_of_short (narrow : format.bits ≤ 64) (numbers : List format.Value)
    (short : numbers.length < 2 ^ 63) :
    ∃ summary, ofList numbers = .ok summary ∧ Describes numbers summary :=
  exists_describes (fits_of_short narrow short)

/-- Of fewer than 2^63 numbers of at most 64 bits there is always a summary: the total of
every prefix is exact, and so are count and sum. The extremes are missing just for the
empty list; otherwise they are elements that all elements lie between, and the sum lies
between their multiples. -/
theorem ofList_exact (narrow : format.bits ≤ 64) (numbers : List format.Value)
    (short : numbers.length < 2 ^ 63) :
    (∀ first part, first :: part <+: numbers → ∃ progress : Progress format.Value Int128,
      Progress.ofList first part = .ok progress ∧ progress.sum.val = total (first :: part)) ∧
    ∃ summary, ofList numbers = .ok summary ∧
      summary.count = numbers.length ∧ summary.sum.val = total numbers ∧
      (summary.least = none ↔ numbers = []) ∧ (summary.greatest = none ↔ numbers = []) ∧
      (∀ least ∈ summary.least, least ∈ numbers ∧ (∀ x ∈ numbers, least.val ≤ x.val) ∧
        summary.count * least.val ≤ summary.sum.val) ∧
      (∀ greatest ∈ summary.greatest, greatest ∈ numbers ∧ (∀ x ∈ numbers, x.val ≤ greatest.val) ∧
        summary.sum.val ≤ summary.count * greatest.val) := by
  constructor
  · intro first part begins
    have shorter := fits_of_short narrow (begins.length_le.trans_lt short)
    obtain ⟨progress, reached, exact, _⟩ := exists_progress shorter
    exact ⟨progress, reached, exact⟩
  · obtain ⟨summary, made, described⟩ := exists_describes_of_short narrow numbers short
    refine ⟨summary, made, described.count, described.sum, described.least.eq_none_iff,
      described.greatest.eq_none_iff, ?_, ?_⟩
    · intro least found
      obtain ⟨member, below⟩ : IsExtreme BoundedInt.val numbers (some least) :=
        found ▸ described.least
      refine ⟨member, below, ?_⟩
      rw [described.count, described.sum]
      exact mul_le_total below
    · intro greatest found
      obtain ⟨member, above⟩ : IsExtreme (fun x => -x.val) numbers (some greatest) :=
        found ▸ described.greatest
      have upper (x : format.Value) (among : x ∈ numbers) : x.val ≤ greatest.val :=
        Int.neg_le_neg_iff.mp (above x among)
      refine ⟨member, upper, ?_⟩
      rw [described.count, described.sum]
      exact total_le_mul upper

/-- The number of a format nearest to an integer. -/
def nearest (format : IntFormat) (n : Int) : format.Value :=
  .clamp (Int.le_trans format.least_le_zero format.zero_le_greatest) n

/-- Both ends of 64 bits, with a sum beyond them. -/
def swing : List IntFormat.int64.Value :=
  [nearest .int64 (-9223372036854775808), nearest .int64 9223372036854775807,
    nearest .int64 (-9223372036854775808)]

theorem swing_exact :
    IntFormat.int64.bits ≤ 64 ∧ swing.length < 2 ^ 63 ∧
      ∃ summary, ofList swing = .ok summary ∧ summary.count = 3 ∧
        summary.sum.val = -9223372036854775809 ∧
        ∃ least greatest, summary.least = some least ∧ summary.greatest = some greatest ∧
          least.val = -9223372036854775808 ∧ greatest.val = 9223372036854775807 := by
  have narrow : IntFormat.int64.bits ≤ 64 := by decide
  have short : swing.length < 2 ^ 63 := by decide
  obtain ⟨_, summary, made, count, sum, low, high, below, above⟩ := ofList_exact narrow swing short
  obtain ⟨least, found⟩ := Option.ne_none_iff_exists'.mp (mt low.mp (by decide))
  obtain ⟨greatest, reached⟩ := Option.ne_none_iff_exists'.mp (mt high.mp (by decide))
  have bottom := (below least found).2.1 (nearest .int64 (-9223372036854775808)) (by decide)
  have top := (above greatest reached).2.1 (nearest .int64 9223372036854775807) (by decide)
  refine ⟨narrow, short, summary, made, count, sum, least, greatest, found, reached, ?_, ?_⟩
  · exact le_antisymm bottom least.lo_le
  · exact le_antisymm greatest.le_hi top

end Format

end Summary

end Assay
